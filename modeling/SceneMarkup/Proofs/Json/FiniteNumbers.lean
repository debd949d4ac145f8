import SceneMarkup.Json.Number
import SceneMarkup.Proofs.Decimal.Overflow

/-!
# Numbers that are read are finite

The digits of a number are gathered into a natural of 64 bits, and the float of that natural is scaled
by a power of ten. A multiplication that overflows is refused, and a division by a power of ten cannot
overflow. So a number that is read as a float is a finite one (`NumberText.isFinite_of_float`), and a
number out of range is an error, never an infinity.
-/

namespace SceneMarkup.Json

open Binary (leastExponent greatestExponent)

/-! ## The significand -/

theorem gather_fst_le {n : Nat} (ds : List Char) (hn : n ≤ maxSignificand) :
    (gather n ds).1 ≤ maxSignificand := by
  fun_induction gather n ds with
  | case1 n => exact hn
  | case2 n d rest n' hlarge => exact hn
  | case3 n d rest n' hsmall ih => exact ih (Nat.le_of_not_lt hsmall)

/-! ## Scaling -/

theorem largeFloat_tenTo {n : Nat} (hn : n ≤ maxPower) : LargeFloat (tenTo n) :=
  largeFloat_ofScientific hn

theorem boundedFloat_div_tenTo {x : Float} {k : Int} (hx : BoundedFloat k x)
    (hleast : leastExponent ≤ k) (hgreatest : k + 53 ≤ greatestExponent) {n : Nat}
    (hn : n ≤ maxPower) : BoundedFloat (k + 53) (x / tenTo n) :=
  boundedFloat_div hx hleast hgreatest (largeFloat_tenTo hn)

/-- Every step divides once, and the exponent stays clear of the greatest one. -/
theorem isFinite_of_scale {steps : Nat} {x y : Float} {e k : Int} (hx : BoundedFloat k x)
    (hleast : leastExponent ≤ k) (hgreatest : k + 53 * (steps + 1) ≤ greatestExponent)
    (h : scale steps x e = some y) : y.isFinite = true := by
  fun_induction scale steps x e generalizing k with
  | case1 steps x e hpower hnonneg product => cases h
  | case2 steps x e hpower hnonneg product =>
    rename_i hfinite
    rw [← Option.some.inj h]
    exact (finite_or_infinite_mul hx.isFinite (largeFloat_tenTo hpower).isFinite).resolve_right
      hfinite
  | case3 steps x e hpower hneg =>
    cases h
    exact (boundedFloat_div_tenTo hx hleast (by omega) hpower).isFinite
  | case4 steps x e hpower hzero =>
    cases h
    exact hx.isFinite
  | case5 steps x e hpower hzero hnonneg => cases h
  | case6 x e hpower hzero hneg =>
    cases h
    decide +kernel
  | case7 x e hpower hzero hneg n ih =>
    push_cast at hgreatest
    exact ih (boundedFloat_div_tenTo hx hleast (by omega) le_rfl) (by omega) (by omega) h

/-- **A number is read as a finite float.** -/
theorem NumberText.isFinite_of_float {t : NumberText} {x : Float} (h : t.float = .ok x) :
    x.isFinite = true := by
  have hsigned {y : Float} (hy : y.isFinite = true) :
      (if t.negative then -y else y).isFinite = true := by
    split
    · exact isFinite_neg hy
    · exact hy
  unfold NumberText.float at h
  simp only at h
  generalize hsignificand : (gather (gather 0 t.whole).1 t.fraction).1 = significand at h
  have hword : significand < 2 ^ 64 := by
    have hle := gather_fst_le t.fraction (gather_fst_le t.whole (Nat.zero_le _))
    rw [hsignificand] at hle
    exact Nat.lt_of_le_pred (by decide) hle
  have hscaled {e : Int} {y : Float} (hy : scale 3 (Float.ofNat significand) e = some y) :
      (if t.negative then -y else y).isFinite = true :=
    hsigned (isFinite_of_scale (boundedFloat_ofNat hword) (by decide) (by decide) hy)
  split at h
  · split at h
    · rename_i hy
      rw [← Except.ok.inj h]
      exact hscaled hy
    · cases h
  · split at h
    · split at h
      · rename_i hy
        rw [← Except.ok.inj h]
        exact hscaled hy
      · cases h
    · split at h
      · rw [← Except.ok.inj h]
        exact hsigned (by decide +kernel)
      · cases h

end SceneMarkup.Json
