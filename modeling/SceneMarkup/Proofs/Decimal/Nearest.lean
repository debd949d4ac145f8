import Mathlib.Algebra.Order.Field.Basic
import Mathlib.Tactic.Linarith
import Mathlib.Tactic.Positivity
import Mathlib.Tactic.Ring
import SceneMarkup.Proofs.Decimal.Values

/-!
# The shortest decimal reads back

Of all floats, the one that a shortest decimal is written for is the nearest to it, and of two that
are equally near the one with an even significand (`Binary.isNearest_shortest`). Floats are spaced
by the unit of their last digit (`gap_above`, `gap_below`), so the interval that the search allows
is half a gap wide at either side.
-/

namespace SceneMarkup

open Float.Model (UnpackedFloat Format)

namespace Binary

def absValue (b : Binary) : ℚ := b.significand * 2 ^ b.exponent

/-- The significand has 53 digits, and fewer only with the least exponent: so each float is written.
There is no largest exponent here, since what is too large is rounded before it is refused. -/
structure IsCanonical (b : Binary) : Prop where
  significand_lt : b.significand < 2 ^ 53
  least_le : leastExponent ≤ b.exponent
  normal : 2 ^ 52 ≤ b.significand ∨ b.exponent = leastExponent

/-- No float is nearer to a magnitude, and one that is as near has the odd significand. -/
structure IsNearest (b : Binary) (q : ℚ) : Prop where
  le : ∀ c : Binary, c.IsCanonical → |q - b.absValue| ≤ |q - c.absValue|
  even_of_tie : ∀ c : Binary, c.IsCanonical → c.absValue ≠ b.absValue →
    |q - b.absValue| = |q - c.absValue| → b.significand % 2 = 0

theorem isCanonical_of_ofFloat? {x : Float} {b : Binary} (h : ofFloat? x = some b) :
    b.IsCanonical := by
  unfold ofFloat? at h
  simp only at h
  split at h
  · cases h
  · split at h
    · cases h
      exact ⟨Nat.lt_trans (Nat.mod_lt _ (by decide)) (by decide), Int.le_refl _, .inr rfl⟩
    · rename_i hbiased
      cases h
      refine ⟨?_, ?_, .inl (Nat.le_add_right _ _)⟩
      · exact Nat.add_lt_add_left (Nat.mod_lt _ (by decide)) _
      · simp only [leastExponent]
        omega

theorem isFinite_unpack (v : BitVec 64) :
    (UnpackedFloat.unpack Format.binary64 v).isFinite = true ↔
      v.toNat / 2 ^ 52 % 2 ^ 11 ≠ 2047 := by
  have hexponent : (@UnpackedFloat.unpackExponent Format.binary64 v).toNat =
      v.toNat / 2 ^ 52 % 2 ^ 11 := by
    rw [UnpackedFloat.unpackExponent, BitVec.toNat_cast, BitVec.extractLsb_toNat,
      Nat.shiftRight_eq_div_pow]
    rfl
  rw [← hexponent]
  unfold UnpackedFloat.unpack
  dsimp only
  by_cases hlast : @UnpackedFloat.unpackExponent Format.binary64 v = -1#11
  · rw [if_pos hlast, hlast]
    refine iff_of_false ?_ (absurd rfl)
    split
    · exact Bool.false_ne_true
    · exact Bool.false_ne_true
  · rw [if_neg hlast]
    refine iff_of_true ?_ fun heq => hlast (BitVec.eq_of_toNat_eq heq)
    by_cases hzero : @UnpackedFloat.unpackExponent Format.binary64 v = 0#11
    · rw [if_pos hzero]
      by_cases hmantissa : @UnpackedFloat.unpackMantissa Format.binary64 v = 0#52
      · rw [dif_pos hmantissa]
        rfl
      · rw [dif_neg hmantissa]
        rfl
    · rw [if_neg hzero]
      rfl

theorem isFinite_iff {x : Float} : x.isFinite = true ↔ ∃ b, ofFloat? x = some b := by
  have hbits : x.isFinite = (UnpackedFloat.unpack Format.binary64 x.toBits.toBitVec).isFinite := rfl
  rw [hbits, isFinite_unpack]
  unfold ofFloat?
  simp only [Nat.pow_eq, UInt64.toNat_toBitVec]
  split
  · simp_all
  · rename_i h
    simp only [ne_eq, h, not_false_eq_true, true_iff]
    split
    · exact ⟨_, rfl⟩
    · exact ⟨_, rfl⟩

/-! ## How floats are spaced -/

section

variable {s t E F : Nat}

/-- If `2 ^ E` is the larger unit, the digits of a multiple of it are too many for the smaller
one. -/
theorem le_mul_of_lt (hs : 2 ^ 52 ≤ s ∨ E = 0) (hFE : F < E) :
    ∃ j, E = F + (j + 1) ∧ 2 ^ 52 ≤ s ∧ 2 ^ 53 ≤ s * 2 ^ (j + 1) := by
  obtain ⟨j, rfl⟩ := Nat.exists_eq_add_of_lt hFE
  have hnormal : 2 ^ 52 ≤ s := hs.resolve_right (by omega)
  refine ⟨j, rfl, hnormal, ?_⟩
  calc 2 ^ 53 = 2 ^ 52 * 2 ^ 1 := by decide
    _ ≤ s * 2 ^ (j + 1) :=
      Nat.mul_le_mul hnormal (Nat.pow_le_pow_right (by decide) (Nat.le_add_left 1 j))

theorem mul_pow_add (s F j : Nat) : s * 2 ^ (F + j) = s * 2 ^ j * 2 ^ F := by
  rw [Nat.add_comm, Nat.pow_add, Nat.mul_assoc]

theorem succ_mul_le_of_lt (hs : 2 ^ 52 ≤ s ∨ E = 0) (ht : t < 2 ^ 53)
    (h : s * 2 ^ E < t * 2 ^ F) : (s + 1) * 2 ^ E ≤ t * 2 ^ F := by
  rcases Nat.lt_or_ge F E with hFE | hEF
  · obtain ⟨j, rfl, -, hlarge⟩ := le_mul_of_lt hs hFE
    rw [mul_pow_add] at h
    have := Nat.lt_of_mul_lt_mul_right h
    omega
  · obtain ⟨j, rfl⟩ := Nat.exists_eq_add_of_le hEF
    rw [mul_pow_add] at h ⊢
    exact Nat.mul_le_mul_right _ (Nat.lt_of_mul_lt_mul_right h)

theorem mul_le_pred_of_lt (hs : 2 ^ 52 ≤ s ∨ E = 0) (ht : t < 2 ^ 53)
    (h : t * 2 ^ F < s * 2 ^ E) :
    t * 2 ^ F + 2 ^ E ≤ s * 2 ^ E ∨
      s = 2 ^ 52 ∧ 0 < E ∧ 2 * (t * 2 ^ F) + 2 ^ E ≤ 2 * (s * 2 ^ E) := by
  rcases Nat.lt_or_ge F E with hFE | hEF
  · obtain ⟨j, rfl, hnormal, hlarge⟩ := le_mul_of_lt hs hFE
    rw [mul_pow_add, show 2 ^ (F + (j + 1)) = 2 ^ (j + 1) * 2 ^ F by rw [Nat.add_comm, Nat.pow_add]]
    by_cases hleast : s = 2 ^ 52
    · -- below a power of two the unit is half as large
      refine .inr ⟨hleast, by omega, ?_⟩
      have hunit : 2 * t + 2 ^ (j + 1) ≤ 2 * (s * 2 ^ (j + 1)) := by
        have : 2 ≤ 2 ^ (j + 1) := Nat.pow_le_pow_right (n := 2) (by decide) (Nat.le_add_left 1 j)
        subst hleast
        generalize 2 ^ (j + 1) = unit at this
        omega
      calc 2 * (t * 2 ^ F) + 2 ^ (j + 1) * 2 ^ F
          = (2 * t + 2 ^ (j + 1)) * 2 ^ F := by rw [Nat.add_mul, Nat.mul_assoc]
        _ ≤ 2 * (s * 2 ^ (j + 1)) * 2 ^ F := Nat.mul_le_mul_right _ hunit
        _ = 2 * (s * 2 ^ (j + 1) * 2 ^ F) := Nat.mul_assoc ..
    · refine .inl ?_
      obtain ⟨r, rfl⟩ := Nat.exists_eq_add_of_lt (Nat.lt_of_le_of_ne hnormal (Ne.symm hleast))
      have hunit : t + 2 ^ (j + 1) ≤ (2 ^ 52 + r + 1) * 2 ^ (j + 1) := by
        have : 2 ^ 53 ≤ (2 ^ 52 + r) * 2 ^ (j + 1) := by
          calc 2 ^ 53 = 2 ^ 52 * 2 ^ 1 := by decide
            _ ≤ (2 ^ 52 + r) * 2 ^ (j + 1) :=
              Nat.mul_le_mul (Nat.le_add_right _ _)
                (Nat.pow_le_pow_right (by decide) (Nat.le_add_left 1 j))
        rw [Nat.succ_mul]
        omega
      calc t * 2 ^ F + 2 ^ (j + 1) * 2 ^ F = (t + 2 ^ (j + 1)) * 2 ^ F := (Nat.add_mul ..).symm
        _ ≤ (2 ^ 52 + r + 1) * 2 ^ (j + 1) * 2 ^ F := Nat.mul_le_mul_right _ hunit
  · obtain ⟨j, rfl⟩ := Nat.exists_eq_add_of_le hEF
    rw [mul_pow_add] at h ⊢
    refine .inl ?_
    rw [← Nat.succ_mul]
    exact Nat.mul_le_mul_right _ (Nat.lt_of_mul_lt_mul_right h)

end

/-- How often the unit of the last digit is the unit of the smallest floats, as a power of two. -/
def shift (b : Binary) : Nat := (b.exponent - leastExponent).toNat

theorem IsCanonical.two_pow_exponent {b : Binary} (h : b.IsCanonical) :
    (2 : ℚ) ^ b.exponent = (2 ^ b.shift : Nat) * 2 ^ leastExponent := by
  have hexponent : b.exponent = (b.shift : Int) + leastExponent := by
    have := h.least_le
    simp only [shift]
    omega
  rw [hexponent, zpow_add₀ (by norm_num), zpow_natCast]
  push_cast
  rfl

theorem IsCanonical.absValue_eq {b : Binary} (h : b.IsCanonical) :
    b.absValue = (b.significand * 2 ^ b.shift : Nat) * 2 ^ leastExponent := by
  rw [absValue, h.two_pow_exponent, Nat.cast_mul, mul_assoc]

theorem IsCanonical.normal_or_shift {b : Binary} (h : b.IsCanonical) :
    2 ^ 52 ≤ b.significand ∨ b.shift = 0 :=
  h.normal.imp_right fun hleast => by rw [shift, hleast, Int.sub_self]; rfl

theorem smallest_pos : (0 : ℚ) < 2 ^ leastExponent := zpow_pos (by norm_num) _

theorem gap_above {b c : Binary} (hb : b.IsCanonical) (hc : c.IsCanonical)
    (h : b.absValue < c.absValue) : b.absValue + 2 ^ b.exponent ≤ c.absValue := by
  rw [hb.absValue_eq, hc.absValue_eq] at h
  have hlt := lt_of_mul_lt_mul_right h smallest_pos.le
  have hle := succ_mul_le_of_lt hb.normal_or_shift hc.significand_lt (Nat.cast_lt.mp hlt)
  rw [hb.absValue_eq, hc.absValue_eq, hb.two_pow_exponent, ← add_mul, ← Nat.cast_add,
    ← Nat.succ_mul]
  exact mul_le_mul_of_nonneg_right (Nat.cast_le.mpr hle) smallest_pos.le

theorem gap_below {b c : Binary} (hb : b.IsCanonical) (hc : c.IsCanonical)
    (h : c.absValue < b.absValue) :
    c.absValue + 2 ^ b.exponent ≤ b.absValue ∨
      b.hasNarrowGap = true ∧ 2 * c.absValue + 2 ^ b.exponent ≤ 2 * b.absValue := by
  rw [hb.absValue_eq, hc.absValue_eq] at h
  have hlt := lt_of_mul_lt_mul_right h smallest_pos.le
  rw [hb.absValue_eq, hc.absValue_eq, hb.two_pow_exponent]
  rcases mul_le_pred_of_lt hb.normal_or_shift hc.significand_lt (Nat.cast_lt.mp hlt) with
    hle | ⟨hleast, hshift, hle⟩
  · refine .inl ?_
    rw [← add_mul, ← Nat.cast_add]
    exact mul_le_mul_of_nonneg_right (Nat.cast_le.mpr hle) smallest_pos.le
  · refine .inr ⟨?_, ?_⟩
    · simp only [hasNarrowGap, Bool.and_eq_true, beq_iff_eq, decide_eq_true_eq]
      refine ⟨hleast, ?_⟩
      simp only [shift] at hshift
      omega
    · rw [← mul_assoc, ← mul_assoc, ← add_mul, ← Nat.cast_ofNat (n := 2), ← Nat.cast_mul,
        ← Nat.cast_add, ← Nat.cast_mul]
      exact mul_le_mul_of_nonneg_right (Nat.cast_le.mpr hle) smallest_pos.le

/-! ## The interval of a float -/

/-- A rational that is half a gap away from a float at most, and less if the significand is odd. -/
structure InInterval (b : Binary) (q : ℚ) : Prop where
  low : 4 * b.absValue - (if b.hasNarrowGap then 1 else 2) * 2 ^ b.exponent ≤ 4 * q
  high : 4 * q ≤ 4 * b.absValue + 2 * 2 ^ b.exponent
  inner : b.significand % 2 ≠ 0 → |q - b.absValue| * 2 < 2 ^ b.exponent

variable {b : Binary} {q : ℚ}

theorem InInterval.halfGap (h : b.InInterval q) : |q - b.absValue| * 2 ≤ 2 ^ b.exponent := by
  have hunit : (0 : ℚ) < 2 ^ b.exponent := zpow_pos (by norm_num) _
  obtain ⟨hlow, hhigh, -⟩ := h
  have hwide : 4 * b.absValue - 2 * 2 ^ b.exponent ≤ 4 * q := by
    split at hlow <;> linarith
  have habs : |q - b.absValue| ≤ 2 ^ b.exponent / 2 := abs_le.mpr ⟨by linarith, by linarith⟩
  linarith

/-- Any other float is half a gap away, or a narrow gap lies between it and the interval. -/
theorem InInterval.away (hb : b.IsCanonical) (h : b.InInterval q) {c : Binary}
    (hc : c.IsCanonical) (hne : c.absValue ≠ b.absValue) :
    2 ^ b.exponent ≤ |q - c.absValue| * 2 ∨
      b.hasNarrowGap = true ∧ |q - b.absValue| ≤ |q - c.absValue| := by
  have hhalf := abs_le.mp (show |q - b.absValue| ≤ 2 ^ b.exponent / 2 by linarith [h.halfGap])
  rcases lt_or_gt_of_ne hne with hlt | hgt
  · have habs := le_abs_self (q - c.absValue)
    rcases gap_below hb hc hlt with hgap | ⟨hnarrow, hgap⟩
    · exact .inl (by linarith)
    · have hlow := h.low
      rw [if_pos hnarrow] at hlow
      exact .inr ⟨hnarrow, le_trans (abs_le.mpr ⟨by linarith, by linarith⟩) habs⟩
  · have hgap := gap_above hb hc hgt
    have habs := neg_abs_le (q - c.absValue)
    exact .inl (by linarith)

theorem InInterval.isNearest (hb : b.IsCanonical) (h : b.InInterval q) : b.IsNearest q where
  le c hc := by
    by_cases heq : c.absValue = b.absValue
    · rw [heq]
    · rcases h.away hb hc heq with haway | ⟨-, hle⟩
      · linarith [h.halfGap]
      · exact hle
  even_of_tie c hc hne htie := by
    by_contra hodd
    have hinner := h.inner hodd
    rcases h.away hb hc hne with haway | ⟨hnarrow, -⟩
    · rw [htie] at hinner
      linarith
    · simp only [hasNarrowGap, Bool.and_eq_true, beq_iff_eq] at hnarrow
      rw [hnarrow.1] at hodd
      exact hodd (by decide)

theorem isNearest_absValue (b : Binary) : b.IsNearest b.absValue where
  le c _ := by
    rw [sub_self, abs_zero]
    exact abs_nonneg _
  even_of_tie c _ hne htie := by
    rw [sub_self, abs_zero, eq_comm, abs_eq_zero, sub_eq_zero] at htie
    exact absurd htie.symm hne

/-! ## The search -/

theorem pow_toNat (a : ℚ) (ha : a ≠ 0) (e : Int) : a ^ e.toNat = a ^ e * a ^ (-e).toNat := by
  rw [← zpow_natCast, ← zpow_natCast, ← zpow_add₀ ha]
  congr 1
  omega

/-- What both sides of the test are multiplied by, so that it is one of naturals. -/
def testScale (b : Binary) (k : Int) : ℚ := 2 ^ (-b.exponent).toNat * 10 ^ (-k).toNat

theorem testScale_pos (b : Binary) (k : Int) : 0 < b.testScale k := by
  unfold testScale
  positivity

def testUnit (b : Binary) (k : Int) : Nat := Nat.pow 2 b.exponent.toNat * Nat.pow 10 (-k).toNat

def testPoint (b : Binary) (k : Int) (digits : Nat) : Nat :=
  4 * digits * (Nat.pow 2 (-b.exponent).toNat * Nat.pow 10 k.toNat)

theorem testUnit_eq (b : Binary) (k : Int) :
    (b.testUnit k : ℚ) = 2 ^ b.exponent * b.testScale k := by
  simp only [testUnit, Nat.pow_eq, Nat.cast_mul, Nat.cast_pow, Nat.cast_ofNat, testScale]
  rw [pow_toNat 2 (by norm_num), mul_assoc]

theorem testPoint_eq (b : Binary) (k : Int) (digits : Nat) :
    (b.testPoint k digits : ℚ) = 4 * Decimal.value ⟨digits, k⟩ * b.testScale k := by
  simp only [testPoint, Nat.pow_eq, Nat.cast_mul, Nat.cast_pow, Nat.cast_ofNat, testScale,
    Decimal.value]
  rw [pow_toNat 10 (by norm_num)]
  ring

section

variable {k : Int} {digits n : Nat}

theorem le_testPoint_iff :
    n * b.testUnit k ≤ b.testPoint k digits ↔
      (n : ℚ) * 2 ^ b.exponent ≤ 4 * Decimal.value ⟨digits, k⟩ := by
  rw [← Nat.cast_le (α := ℚ), Nat.cast_mul, testUnit_eq, testPoint_eq, ← mul_assoc]
  exact mul_le_mul_iff_of_pos_right (testScale_pos b k)

theorem testPoint_le_iff :
    b.testPoint k digits ≤ n * b.testUnit k ↔
      4 * Decimal.value ⟨digits, k⟩ ≤ (n : ℚ) * 2 ^ b.exponent := by
  rw [← Nat.cast_le (α := ℚ), Nat.cast_mul, testUnit_eq, testPoint_eq, ← mul_assoc]
  exact mul_le_mul_iff_of_pos_right (testScale_pos b k)

/-- The lower end of the interval of a float, in quarters of the unit of its last digit. -/
def lowEnd (b : Binary) : Nat :=
  if b.hasNarrowGap then 4 * b.significand - 1 else 4 * b.significand - 2

theorem cast_lowEnd (hpos : b.significand ≠ 0) :
    (b.lowEnd : ℚ) = 4 * b.significand - if b.hasNarrowGap then 1 else 2 := by
  unfold lowEnd
  split <;> rw [Nat.cast_sub (by omega), Nat.cast_mul] <;> rfl

/-- The ends belong to the interval if the significand is even. -/
theorem readsBack_iff :
    b.readsBack k digits = true ↔
      if b.significand % 2 = 0 then
        b.lowEnd * b.testUnit k ≤ b.testPoint k digits ∧
          b.testPoint k digits ≤ (4 * b.significand + 2) * b.testUnit k
      else b.lowEnd * b.testUnit k < b.testPoint k digits ∧
        b.testPoint k digits < (4 * b.significand + 2) * b.testUnit k := by
  have htest : b.readsBack k digits =
      if b.significand % 2 = 0 then
        decide (b.lowEnd * b.testUnit k ≤ b.testPoint k digits) &&
          decide (b.testPoint k digits ≤ (4 * b.significand + 2) * b.testUnit k)
      else decide (b.lowEnd * b.testUnit k < b.testPoint k digits) &&
        decide (b.testPoint k digits < (4 * b.significand + 2) * b.testUnit k) := rfl
  rw [htest]
  split <;> simp only [Bool.and_eq_true, decide_eq_true_eq]

theorem not_hasNarrowGap_of_odd (h : b.significand % 2 ≠ 0) : b.hasNarrowGap = false := by
  rw [Bool.eq_false_iff]
  intro hnarrow
  simp only [hasNarrowGap, Bool.and_eq_true, beq_iff_eq] at hnarrow
  rw [hnarrow.1] at h
  exact h (by decide)

theorem inInterval_of_readsBack (hpos : b.significand ≠ 0) (h : b.readsBack k digits = true) :
    b.InInterval (Decimal.value ⟨digits, k⟩) := by
  rw [readsBack_iff] at h
  have hends : b.lowEnd * b.testUnit k ≤ b.testPoint k digits ∧
      b.testPoint k digits ≤ (4 * b.significand + 2) * b.testUnit k := by
    split at h <;> omega
  have hlow := le_testPoint_iff.mp hends.1
  have hhigh := testPoint_le_iff.mp hends.2
  rw [cast_lowEnd hpos, sub_mul, mul_assoc] at hlow
  rw [Nat.cast_add, Nat.cast_mul, add_mul, mul_assoc] at hhigh
  refine ⟨hlow, hhigh, fun hodd => ?_⟩
  rw [if_neg hodd] at h
  have hlow := lt_of_not_ge (mt testPoint_le_iff.mpr (Nat.not_le.mpr h.1))
  have hhigh := lt_of_not_ge (mt le_testPoint_iff.mpr (Nat.not_le.mpr h.2))
  rw [cast_lowEnd hpos, not_hasNarrowGap_of_odd hodd, if_neg (by decide), sub_mul, mul_assoc]
    at hlow
  rw [Nat.cast_add, Nat.cast_mul, add_mul, mul_assoc] at hhigh
  have habs : |Decimal.value ⟨digits, k⟩ - b.absValue| < 2 ^ b.exponent / 2 := by
    rw [absValue, abs_lt]
    push_cast at hlow hhigh
    constructor <;> linarith
  linarith

theorem ne_zero_of_readsBack (hpos : b.significand ≠ 0) (h : b.readsBack k digits = true) :
    digits ≠ 0 := by
  rintro rfl
  rw [readsBack_iff] at h
  have hunit : 0 < b.testUnit k :=
    Nat.mul_pos (Nat.pow_pos (by decide)) (Nat.pow_pos (by decide))
  have hend : 0 < b.lowEnd := by
    unfold lowEnd
    split <;> omega
  have hlow := Nat.mul_pos hend hunit
  have hpoint : b.testPoint k 0 = 0 := by rw [testPoint, Nat.mul_zero, Nat.zero_mul]
  split at h <;> omega

end

/-! ## The shortest decimal -/

theorem nearer_eq (tie : Tie) (num den below : Nat) :
    nearer tie num den below = below ∨ nearer tie num den below = below + 1 := by
  unfold nearer
  split
  · exact .inl rfl
  · exact .inr rfl
  · split
    · exact .inl rfl
    · exact .inr rfl

theorem readsBack_of_onGrid? {tie : Tie} {k : Int} {d : Decimal} (h : b.onGrid? tie k = some d) :
    d.exponent = k ∧ b.readsBack k d.digits = true := by
  unfold onGrid? at h
  simp only at h
  split at h
  · cases h
  · rename_i hbelow _
    cases h
    exact ⟨rfl, hbelow⟩
  · rename_i habove
    cases h
    exact ⟨rfl, habove⟩
  · rename_i hbelow habove
    cases h
    refine ⟨rfl, ?_⟩
    rcases nearer_eq tie (b.numerator * Nat.pow 10 (-k).toNat) (b.denominator * Nat.pow 10 k.toNat)
      (b.numerator * Nat.pow 10 (-k).toNat / (b.denominator * Nat.pow 10 k.toNat)) with heq | heq
    · rw [heq]
      exact hbelow
    · rw [heq]
      exact habove

theorem magnitude_eq {b : Binary} {n : Nat}
    (hleast : 10 ^ n ≤ b.numerator * Nat.pow 10 324 / b.denominator)
    (hless : b.numerator * Nat.pow 10 324 / b.denominator < 10 ^ (n + 1)) :
    b.magnitude = (n : Int) + 1 - 324 := by
  rw [magnitude]
  generalize b.numerator * Nat.pow 10 324 / b.denominator = whole at hleast hless
  have hle := (Nat.length_repr_le_iff (Nat.succ_pos n)).mpr hless
  have hlt : n < whole.repr.length := by
    rcases Nat.eq_zero_or_pos n with rfl | hn
    · exact Nat.length_repr_pos
    · rw [← Nat.not_le, Nat.length_repr_le_iff hn]
      exact Nat.not_lt.mpr hleast
  omega

theorem value_exactDecimal (b : Binary) : b.exactDecimal.value = b.absValue := by
  simp only [exactDecimal, Decimal.value, absValue, Nat.pow_eq]
  push_cast
  rw [pow_toNat 2 (by norm_num), zpow_neg, zpow_natCast]
  have hten : (10 : ℚ) ^ (-b.exponent).toNat =
      2 ^ (-b.exponent).toNat * 5 ^ (-b.exponent).toNat := by
    rw [← mul_pow]
    norm_num
  rw [hten]
  field_simp

theorem exactDecimal_ne_zero (hpos : b.significand ≠ 0) : b.exactDecimal.digits ≠ 0 := by
  simp only [exactDecimal, Nat.pow_eq]
  positivity

/-- **The float of a shortest decimal is the nearest one to it.** -/
theorem isNearest_shortest (hb : b.IsCanonical) (hpos : b.significand ≠ 0) (tie : Tie) :
    b.IsNearest (b.shortest tie).value ∧ (b.shortest tie).digits ≠ 0 := by
  unfold shortest
  simp only
  cases hfound : (List.range 17).findSome? fun n => b.onGrid? tie (b.magnitude - (n + 1 : Nat)) with
  | none =>
    rw [Option.getD_none, value_exactDecimal]
    exact ⟨isNearest_absValue b, exactDecimal_ne_zero hpos⟩
  | some d =>
    obtain ⟨n, -, hn⟩ := List.exists_of_findSome?_eq_some hfound
    obtain ⟨hexponent, hreads⟩ := readsBack_of_onGrid? hn
    rw [← hexponent] at hreads
    exact ⟨(inInterval_of_readsBack hpos hreads).isNearest hb, ne_zero_of_readsBack hpos hreads⟩

end Binary

/-! ## Trailing zeros -/

theorem Decimal.value_dropZeros (n : Nat) (d : Decimal) : (d.dropZeros n).value = d.value := by
  induction n generalizing d with
  | zero => rfl
  | succ n ih =>
    unfold dropZeros
    split
    · rename_i hzero
      rw [ih, value, value]
      obtain ⟨m, hm⟩ := Nat.dvd_of_mod_eq_zero hzero
      rw [hm, Nat.mul_div_cancel_left m (by decide), zpow_add₀ (by norm_num)]
      push_cast
      ring
    · rfl

theorem Decimal.dropZeros_ne_zero (n : Nat) {d : Decimal} (h : d.digits ≠ 0) :
    (d.dropZeros n).digits ≠ 0 := by
  induction n generalizing d with
  | zero => exact h
  | succ n ih =>
    unfold dropZeros
    split
    · exact ih (by simp only; omega)
    · exact h

/-! ## Written floats -/

theorem zero_of_isZero {b : Binary} (h : b.isZero = true) : b.absValue = 0 := by
  rw [Binary.absValue, eq_of_beq h, Nat.cast_zero, zero_mul]

/-- **A finite float is written as its sign and a literal that it is the nearest float to**, in
every layout. -/
theorem Layout.exists_decimalLiteral_text (layout : Layout) {x : Float} {b : Binary}
    (h : Binary.ofFloat? x = some b) :
    ∃ text q, (layout.text x).toList = (if b.negative then "-" else "").toList ++ text ∧
      DecimalLiteral text q ∧ b.IsNearest q := by
  have hcanonical := Binary.isCanonical_of_ofFloat? h
  rw [Layout.text, h]
  simp only [String.toList_append]
  refine ⟨_, _, rfl, Decimal.decimalLiteral_text layout ?_, ?_⟩
  · by_cases hzero : b.isZero = true
    · rw [if_pos hzero]
      exact fun _ => Int.le_refl 0
    · rw [if_neg hzero]
      have hpos : b.significand ≠ 0 := by simpa [Binary.isZero] using hzero
      exact fun hnone =>
        absurd hnone (Decimal.dropZeros_ne_zero 20 (b.isNearest_shortest hcanonical hpos _).2)
  · by_cases hzero : b.isZero = true
    · rw [if_pos hzero, Decimal.value, Nat.cast_zero, zero_mul, ← zero_of_isZero hzero]
      exact b.isNearest_absValue
    · rw [if_neg hzero, Decimal.value_dropZeros]
      have hpos : b.significand ≠ 0 := by simpa [Binary.isZero] using hzero
      exact (b.isNearest_shortest hcanonical hpos _).1

end SceneMarkup
