import SceneMarkup.Decimal.Layout

/-!
# Sizes in pixels

The text of a size, and the discrete steps of four pixels that gaps and paddings are written in.
-/

namespace SceneMarkup.Pixels

/-- The text of a size; both zeros are written `0`. -/
def text (px : Float) : String :=
  if px == 0 then "0" else Layout.positional.text px

def stepSize : Nat := 4

def maxStep : Nat := 96

/-- The number of whole steps in a positive size that is a multiple of the step, up to the largest. -/
def bareStep? (px : Float) : Option Nat :=
  if 0 < px then
    match (Binary.ofFloat? px).bind (·.wholeQuotient? stepSize) with
    | some n => if n ≤ maxStep then some n else none
    | none => none
  else none

/-- The identifier of a size: empty for zero, a bare step where there is one, else the size itself in
brackets. -/
def step (px : Float) : String :=
  if px == 0 then ""
  else match bareStep? px with
    | some n => n.repr
    | none => "[" ++ text px ++ "px]"

/-- The class `family-step` of a gap or padding; zero and non-finite sizes have none. -/
def spacingClass? (family : String) (px : Float) : Option String :=
  if px == 0 || !px.isFinite then none else some (family ++ "-" ++ step px)

end SceneMarkup.Pixels
