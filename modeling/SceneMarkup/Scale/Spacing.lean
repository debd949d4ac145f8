import SceneMarkup.Scale.Pixels

/-!
# The spacing scale

A scale is a list of buckets. A size is put into the first bucket at the least distance
(`Spacing.nearest`), and fits if that distance is within a tolerance (`Spacing.fit?`). The search is
written for any `Gauge`, that is, any way to measure distances; the scale itself measures in floats
(`Gauge.rounded`).
-/

namespace SceneMarkup

structure Bucket where
  key : Nat
  px : Float
  deriving DecidableEq, Repr

/-- A way to measure how far a size is from a bucket. -/
structure Gauge (δ : Type) where
  distance : Float → Float → δ
  /-- The distance of a size that is nowhere near any bucket. -/
  unreachable : δ
  lt : δ → δ → Bool
  isTolerable : δ → Bool

/-- Distances at which a bucket still stands for a size. -/
def tolerance : Float := 2

/-- Distances as floats compute them. -/
def Gauge.rounded : Gauge Float where
  distance px bucket := (px - bucket).abs
  unreachable := 1 / 0
  lt a b := a < b
  isTolerable d := d ≤ tolerance

structure Match (δ : Type) where
  bucket : Bucket
  distance : δ
  deriving DecidableEq, Repr

structure Spacing where
  buckets : List Bucket
  deriving DecidableEq, Repr

namespace Spacing

/-- Keeps the better of the best match so far and the next bucket; a tie keeps the earlier one. -/
def improve {δ : Type} (g : Gauge δ) (px : Float) (best : Match δ) (b : Bucket) : Match δ :=
  let d := g.distance px b.px
  if g.lt d best.distance then ⟨b, d⟩ else best

/-- The first bucket at the least distance. A size with no finite distance to any bucket is matched
with the first one, and an empty scale answers bucket 0 at 0 pixels. -/
def nearestBy {δ : Type} (g : Gauge δ) (s : Spacing) (px : Float) : Match δ :=
  s.buckets.foldl (improve g px) ⟨s.buckets.headD ⟨0, 0⟩, g.unreachable⟩

/-- The nearest bucket of a finite, non-negative size, if it is within the tolerance. -/
def fitBy? {δ : Type} (g : Gauge δ) (s : Spacing) (px : Float) : Option (Match δ) :=
  if !px.isFinite || px < 0 then none
  else
    let found := s.nearestBy g px
    if g.isTolerable found.distance then some found else none

def nearest (s : Spacing) (px : Float) : Match Float := s.nearestBy .rounded px

def fit? (s : Spacing) (px : Float) : Option (Match Float) := s.fitBy? .rounded px

/-- Steps of four pixels, sparser as they grow; a key is a quarter of its size. -/
def standard : Spacing where
  buckets :=
    [0, 1, 2, 3, 4, 5, 6, 7, 8, 9, 10, 11, 12, 14, 16, 20, 24, 28, 32, 36, 40, 44, 48, 52, 56, 60,
      64, 72, 80, 96].map fun key => ⟨key, (4 * key : Nat).toFloat⟩

end Spacing

end SceneMarkup
