import SceneMarkup.Proofs.Decimal.Floats

/-!
# Differences of floats

A difference that is itself a float is computed as it is (`exactValue?_sub`): its digits fit, so
that rounding shifts none of them out (`Binary.round_exact`). A float that is not finite stays so.
-/

namespace SceneMarkup

open Float.Model (UnpackedFloat Format totalExponent)
open Float.Model.UnpackedFloat (Sign ExtendedMantissa decreaseExponent shiftToTargetExponent
  roundWithAccuracy)

namespace Binary

variable {c : Binary} {m n : Nat} {e f : Int}

/-! ## Rounding what is a float already -/

theorem two_zpow_le (hm : 0 < m) : (2 : ℚ) ^ (totalExponent m e - 1) ≤ m * 2 ^ e := by
  have hle : ((2 ^ m.log2 : Nat) : ℚ) ≤ m := Nat.cast_le.mpr (Nat.log2_self_le hm.ne')
  have hexponent : totalExponent m e - 1 = m.log2 + e := by
    simp only [totalExponent]
    omega
  rw [hexponent, zpow_add₀ (by norm_num), zpow_natCast]
  push_cast at hle
  exact mul_le_mul_of_nonneg_right hle (zpow_nonneg (by norm_num) _)

theorem lt_two_zpow (m : Nat) (e : Int) : m * 2 ^ e < (2 : ℚ) ^ totalExponent m e := by
  have hlt : (m : ℚ) < ((2 ^ (m.log2 + 1) : Nat) : ℚ) := Nat.cast_lt.mpr Nat.lt_log2_self
  have hexponent : totalExponent m e = (m.log2 + 1 : Nat) + e := by
    simp only [totalExponent]
    omega
  rw [hexponent, zpow_add₀ (by norm_num), zpow_natCast]
  push_cast at hlt ⊢
  exact mul_lt_mul_of_pos_right hlt (zpow_pos (by norm_num) _)

theorem totalExponent_le_of_eq (hm : 0 < m) (h : (m : ℚ) * 2 ^ e = n * 2 ^ f) :
    totalExponent m e ≤ totalExponent n f := by
  have hlt : (2 : ℚ) ^ (totalExponent m e - 1) < 2 ^ totalExponent n f := by
    calc (2 : ℚ) ^ (totalExponent m e - 1) ≤ m * 2 ^ e := two_zpow_le hm
      _ = n * 2 ^ f := h
      _ < 2 ^ totalExponent n f := lt_two_zpow n f
  have := (zpow_lt_zpow_iff_right₀ (by norm_num)).mp hlt
  omega

/-- The digits of a float are rounded to the exponent that it has. -/
theorem targetExponent_eq (hc : c.IsCanonical) (hpos : 0 < c.significand) (hm : 0 < m)
    (h : (m : ℚ) * 2 ^ e = c.absValue) :
    Format.binary64.targetExponent (totalExponent m e) = c.exponent := by
  have htotal : totalExponent m e = totalExponent c.significand c.exponent :=
    Int.le_antisymm (totalExponent_le_of_eq hm h) (totalExponent_le_of_eq hpos h.symm)
  have htarget : Format.binary64.targetExponent (totalExponent c.significand c.exponent) =
      max ((c.significand.log2 : Int) + 1 + c.exponent - 53) (-1074) := rfl
  have hlow : 52 ≤ c.significand.log2 ↔ 2 ^ 52 ≤ c.significand := Nat.le_log2 hpos.ne'
  have hhigh : c.significand.log2 < 53 ↔ c.significand < 2 ^ 53 := Nat.log2_lt hpos.ne'
  obtain ⟨hlt, hleast, hnormal⟩ := hc
  simp only [leastExponent] at hleast hnormal
  rw [htotal, htarget]
  omega

theorem shiftRight_exact (k n : Nat) :
    ExtendedMantissa.mk (k * 2 ^ n) false false >>> n = ⟨k, false, false⟩ := by
  have hrepeat : ExtendedMantissa.mk (k * 2 ^ n) false false >>> n =
      n.repeat ExtendedMantissa.shiftRightOne ⟨k * 2 ^ n, false, false⟩ := rfl
  rw [hrepeat]
  clear hrepeat
  induction n generalizing k with
  | zero => simp [Nat.repeat]
  | succ n ih =>
    rw [Nat.repeat, Nat.pow_succ', ← Nat.mul_assoc, ih]
    simp [ExtendedMantissa.shiftRightOne]

theorem shiftToTargetExponent_exact (hc : c.IsCanonical) (hpos : 0 < c.significand)
    (h : (m : ℚ) * 2 ^ e = c.absValue) (he : e ≤ c.exponent) :
    shiftToTargetExponent Format.binary64 m e .exact =
      (⟨c.significand, false, false⟩, c.exponent) := by
  have hm : 0 < m :=
    (absValue_pos_iff (b := ⟨false, m, e⟩)).mp ((absValue_pos hpos).trans_eq h.symm)
  obtain ⟨n, hn⟩ : ∃ n : Nat, c.exponent = e + n := ⟨(c.exponent - e).toNat, by omega⟩
  have hdigits : m = c.significand * 2 ^ n := by
    have hunit : (2 : ℚ) ^ e ≠ 0 := zpow_ne_zero _ (by norm_num)
    rw [absValue, hn, zpow_add₀ (by norm_num), zpow_natCast] at h
    have hcast : (m : ℚ) = c.significand * 2 ^ n := mul_right_cancel₀ hunit (by linarith)
    exact_mod_cast hcast
  rw [shiftToTargetExponent, targetExponent_eq hc hpos hm h]
  unfold Float.Model.UnpackedFloat.shiftToExponent
  have hamount : (c.exponent - e).toNat = n := by omega
  simp only [hamount, ExtendedMantissa.ofMantissaAndAccuracy]
  rw [hdigits, shiftRight_exact, hn]

theorem roundWithAccuracy_exact (s : Sign) (hc : c.IsCanonical) (hpos : 0 < c.significand)
    (h : (m : ℚ) * 2 ^ e = c.absValue) (he : e ≤ c.exponent) :
    roundWithAccuracy Format.binary64 s m e .exact =
      .finite s c.significand c.exponent hpos := by
  -- the digits are rounded to themselves, so that shifting them once more changes nothing
  have hagain : shiftToTargetExponent Format.binary64
      (ExtendedMantissa.mk c.significand false false).roundedMantissa c.exponent .exact =
      (⟨c.significand, false, false⟩, c.exponent) :=
    shiftToTargetExponent_exact hc hpos rfl le_rfl
  rw [roundWithAccuracy, shiftToTargetExponent_exact hc hpos h he]
  dsimp only
  rw [hagain]
  exact dif_neg hpos.ne'

theorem round_exact (s : Sign) (hc : c.IsCanonical) (hpos : 0 < c.significand) (hm : 0 < m)
    (h : (m : ℚ) * 2 ^ e = c.absValue) :
    Float.Model.UnpackedFloat.round Format.binary64 s m e =
      .finite s c.significand c.exponent hpos := by
  rw [Float.Model.UnpackedFloat.round]
  dsimp only [decreaseExponent]
  rw [targetExponent_eq hc hpos hm h]
  refine roundWithAccuracy_exact s hc hpos ?_ (by omega)
  have hexponent : e = (e - (e - c.exponent).toNat) + (e - c.exponent).toNat := by omega
  rw [Nat.shiftLeft_eq, ← h]
  conv_rhs => rw [hexponent, zpow_add₀ (by norm_num), zpow_natCast]
  push_cast
  ring

/-- An unpacked float that can be packed stands for a rational. -/
def StandsFor (u : UnpackedFloat) (q : ℚ) : Prop :=
  ∃ b, ofUnpacked? u = some b ∧ b.IsCanonical ∧ b.exponent ≤ greatestExponent ∧ b.value = q

theorem standsFor_zero (s : Sign) : StandsFor (.zero s) 0 :=
  ⟨⟨isNegative s, 0, leastExponent⟩, rfl, ⟨Nat.two_pow_pos 53, le_rfl, .inr rfl⟩,
    (by decide : leastExponent ≤ greatestExponent), value_zero _ _⟩

theorem value_mk (s : Sign) (m : Nat) (e : Int) :
    (Binary.mk (isNegative s) m e).value = (s.apply m : ℤ) * 2 ^ e := by
  rw [value_eq, absValue]
  cases s with
  | negative =>
    simp only [isNegative, if_true, Sign.apply]
    push_cast
    ring
  | positive => rfl

theorem apply_neg (s : Sign) (k : ℤ) : (-s).apply k = -s.apply k := by
  cases s with
  | negative => exact (neg_neg k).symm
  | positive => rfl

theorem exists_apply {k : ℤ} (hk : k ≠ 0) : ∃ (s : Sign) (m : Nat), 0 < m ∧ k = s.apply m := by
  rcases lt_or_gt_of_ne hk with hlt | hgt
  · exact ⟨.negative, (-k).toNat, by omega, by simp only [Sign.apply]; omega⟩
  · exact ⟨.positive, k.toNat, by omega, by simp only [Sign.apply]; omega⟩

theorem standsFor_neg {u : UnpackedFloat} {q : ℚ} (h : StandsFor u q) : StandsFor u.neg (-q) := by
  obtain ⟨b, hb, ⟨hlt, hleast, hnormal⟩, hgreatest, rfl⟩ := h
  cases u with
  | infinity s => cases hb
  | notANumber => cases hb
  | zero s =>
    cases hb
    rw [value_zero, neg_zero]
    exact standsFor_zero _
  | finite s m e hm =>
    cases hb
    refine ⟨⟨isNegative (-s), m, e⟩, rfl, ⟨hlt, hleast, hnormal⟩, hgreatest, ?_⟩
    rw [value_mk, value_mk, apply_neg, Int.cast_neg, neg_mul]

theorem negative_eq_of_value {b d : Binary} (hpos : 0 < b.significand) (h : b.value = d.value) :
    b.negative = d.negative := by
  have hb := absValue_pos hpos
  have hd := d.absValue_nonneg
  rw [value_eq, value_eq] at h
  cases hnegative : b.negative with
  | true =>
    cases hother : d.negative with
    | true => rfl
    | false =>
      rw [hnegative, hother, if_pos rfl, if_neg Bool.false_ne_true] at h
      linarith
  | false =>
    cases hother : d.negative with
    | true =>
      rw [hnegative, hother, if_pos rfl, if_neg Bool.false_ne_true] at h
      linarith
    | false => rfl

theorem normalize_apply (s : Sign) (hm : 0 < m) (e : Int) :
    UnpackedFloat.normalize Format.binary64 (s.apply m) e .positive =
      Float.Model.UnpackedFloat.round Format.binary64 s m e := by
  cases s with
  | negative =>
    have hlt : -(m : Int) < 0 := by omega
    rw [Sign.apply, UnpackedFloat.normalize, compare_lt_iff_lt.mpr hlt]
    simp only [neg_neg, Int.toNat_natCast]
  | positive =>
    have hgt : (0 : Int) < m := by omega
    rw [Sign.apply, UnpackedFloat.normalize, compare_gt_iff_gt.mpr hgt]
    simp only [Int.toNat_natCast]

/-- A sum that is the value of a float is rounded to it. -/
theorem normalize_exact {d : Binary} (hd : d.IsCanonical)
    (hgreatest : d.exponent ≤ greatestExponent) {k : ℤ} (h : (k : ℚ) * 2 ^ e = d.value) :
    StandsFor (UnpackedFloat.normalize Format.binary64 k e .positive) d.value := by
  by_cases hzero : k = 0
  · rw [← h, hzero, Int.cast_zero, zero_mul, UnpackedFloat.normalize, compare_eq_iff_eq.mpr rfl]
    exact standsFor_zero .positive
  · obtain ⟨s, m, hm, rfl⟩ := exists_apply hzero
    rw [← value_mk] at h
    have habs : (m : ℚ) * 2 ^ e = d.absValue := by
      rw [← abs_value d, ← h, abs_value]
      rfl
    have hpos : 0 < d.significand := by
      have hmagnitude : 0 < (Binary.mk false m e).absValue := absValue_pos hm
      exact absValue_pos_iff.mp (hmagnitude.trans_eq habs)
    have hnegative : isNegative s = d.negative := negative_eq_of_value hm h
    rw [normalize_apply s hm, round_exact s hd hpos hm habs]
    refine ⟨d, ?_, hd, hgreatest, rfl⟩
    rw [ofUnpacked?_finite, hnegative]

/-! ## Subtraction -/

theorem apply_shiftLeft (s : Sign) (m : Nat) (h : f ≤ e) :
    (s.apply ((m <<< (e - f).toNat : Nat) : ℤ) : ℚ) * 2 ^ f = (s.apply (m : ℤ) : ℚ) * 2 ^ e := by
  have hexponent : e = f + (e - f).toNat := by omega
  rw [Nat.shiftLeft_eq]
  conv_rhs => rw [hexponent, zpow_add₀ (by norm_num), zpow_natCast]
  cases s with
  | negative =>
    simp only [Sign.apply]
    push_cast
    ring
  | positive =>
    simp only [Sign.apply]
    push_cast
    ring

theorem sub_exact {u v : UnpackedFloat} {p q : ℚ} (hu : StandsFor u p) (hv : StandsFor v q)
    {d : Binary} (hd : d.IsCanonical) (hgreatest : d.exponent ≤ greatestExponent)
    (h : p - q = d.value) : StandsFor (UnpackedFloat.sub Format.binary64 u v) d.value := by
  obtain ⟨b, hb, -, -, rfl⟩ := id hu
  obtain ⟨c, hc, -, -, rfl⟩ := id hv
  cases u with
  | infinity s => cases hb
  | notANumber => cases hb
  | zero s =>
    cases hb
    rw [value_zero, zero_sub] at h
    rw [← h]
    cases v with
    | infinity t => cases hc
    | notANumber => cases hc
    | zero t =>
      cases hc
      rw [value_zero, neg_zero]
      have hsub : UnpackedFloat.sub Format.binary64 (.zero s) (.zero t) =
          .zero (if s == -t then s else .positive) := by
        cases s <;> cases t <;> rfl
      rw [hsub]
      exact standsFor_zero _
    | finite t n f hn => exact standsFor_neg hv
  | finite s m e hm =>
    cases hb
    cases v with
    | infinity t => cases hc
    | notANumber => cases hc
    | zero t =>
      cases hc
      rw [value_zero, sub_zero] at h
      rw [← h]
      exact hu
    | finite t n f hn =>
      cases hc
      rw [value_mk, value_mk] at h
      refine normalize_exact hd hgreatest ?_
      rw [Int.cast_sub, sub_mul, apply_shiftLeft s m (min_le_left e f),
        apply_shiftLeft t n (min_le_right e f), h]

end Binary

section

variable {x y : Float} {p q : ℚ}

theorem standsFor_of_exactValue? (hx : exactValue? x = some p) :
    Binary.StandsFor x.toModel.unpack p := by
  obtain ⟨b, hb, hvalue⟩ := exactValue?_eq_some_iff.mp hx
  exact ⟨b, (Binary.ofFloat?_eq x).symm.trans hb, Binary.isCanonical_of_ofFloat? hb,
    Binary.le_greatestExponent hb, hvalue⟩

theorem toModel_sub (x y : Float) :
    (x - y).toModel =
      Float.Model.pack (UnpackedFloat.sub Format.binary64 x.toModel.unpack y.toModel.unpack) := rfl

/-- **A difference that is a float is computed without rounding.** -/
theorem exactValue?_sub (hx : exactValue? x = some p) (hy : exactValue? y = some q) {d : Float}
    (hd : exactValue? d = some (p - q)) : exactValue? (x - y) = some (p - q) := by
  obtain ⟨b, hb, hvalue⟩ := exactValue?_eq_some_iff.mp hd
  obtain ⟨r, hr, hcanonical, hgreatest, hdifference⟩ :=
    Binary.sub_exact (standsFor_of_exactValue? hx) (standsFor_of_exactValue? hy)
      (Binary.isCanonical_of_ofFloat? hb) (Binary.le_greatestExponent hb) hvalue.symm
  rw [exactValue?, Binary.ofFloat?_eq, toModel_sub, Binary.ofUnpacked?_pack hr hcanonical hgreatest,
    Option.map_some, hdifference, hvalue]

theorem exactValue?_sub_of_none (hx : exactValue? x = none) (hy : exactValue? y = some q) :
    exactValue? (x - y) = none := by
  obtain ⟨b, hb, -⟩ := standsFor_of_exactValue? hy
  rw [exactValue?, Binary.ofFloat?_eq, toModel_sub]
  rcases not_finite_cases hx with ⟨s, hunpack⟩ | hunpack
  · have hsub : UnpackedFloat.sub Format.binary64 (.infinity s) y.toModel.unpack = .infinity s := by
      cases hother : y.toModel.unpack with
      | infinity t => rw [hother] at hb; cases hb
      | notANumber => rw [hother] at hb; cases hb
      | zero t => rfl
      | finite t m e hm => rfl
    rw [hunpack, hsub, unpack_pack_infinity]
    rfl
  · have hsub : UnpackedFloat.sub Format.binary64 .notANumber y.toModel.unpack = .notANumber := by
      cases y.toModel.unpack <;> rfl
    rw [hunpack, hsub, unpack_pack_notANumber]
    rfl

end

end SceneMarkup
