import Mathlib.Order.Compare
import SceneMarkup.Proofs.Decimal.Nearest

/-!
# Floats as rationals

A finite float stands for a rational (`exactValue?`). Floats compare as these do (`float_lt_iff`,
`float_le_iff`, `float_beq_iff`), and an absolute value stands for the absolute value
(`exactValue?_abs`). A float is compared after it is unpacked, so what is shown first is that it is
unpacked to the parts that it has (`Binary.ofFloat?_eq`), and packed from them without loss
(`Binary.ofUnpacked?_pack`).
-/

namespace SceneMarkup

open Float.Model (UnpackedFloat Format)
open Float.Model.UnpackedFloat (Sign)

namespace Binary

theorem absValue_eq_div (b : Binary) : b.absValue = b.numerator / b.denominator := by
  rw [numerator, denominator, absValue]
  simp only [Nat.pow_eq]
  push_cast
  rw [pow_toNat 2 (by norm_num)]
  field_simp

theorem value_eq (b : Binary) : b.value = if b.negative then -b.absValue else b.absValue := by
  rw [value, Rat.mkRat_eq_div, absValue_eq_div]
  rfl

def isNegative : Sign → Bool
  | .negative => true
  | .positive => false

def ofUnpacked? : UnpackedFloat → Option Binary
  | .zero s => some ⟨isNegative s, 0, leastExponent⟩
  | .finite s m e _ => some ⟨isNegative s, m, e⟩
  | .infinity _ | .notANumber => none

theorem ofUnpacked?_finite (s : Sign) {m : Nat} (e : Int) (hm : 0 < m) :
    ofUnpacked? (.finite s m e hm) = some ⟨isNegative s, m, e⟩ := rfl

section

variable (v : BitVec Format.binary64.numBits)

theorem toNat_unpackExponent :
    (UnpackedFloat.unpackExponent v).toNat = v.toNat / 2 ^ 52 % 2 ^ 11 := by
  rw [UnpackedFloat.unpackExponent, BitVec.toNat_cast, BitVec.extractLsb_toNat,
    Nat.shiftRight_eq_div_pow]
  rfl

theorem toNat_unpackMantissa : (UnpackedFloat.unpackMantissa v).toNat = v.toNat % 2 ^ 52 := by
  rw [UnpackedFloat.unpackMantissa, BitVec.toNat_cast, BitVec.extractLsb_toNat,
    Nat.shiftRight_zero]
  rfl

theorem isNegative_unpackSign :
    isNegative (Sign.ofBitVec (UnpackedFloat.unpackSign v)) = (v.toNat / 2 ^ 63 == 1) := by
  have hsign : (UnpackedFloat.unpackSign v).toNat = v.toNat / 2 ^ 63 % 2 := by
    have hbit : (UnpackedFloat.unpackSign v).toNat = (v.extractLsb 63 63).toNat := rfl
    rw [hbit, BitVec.extractLsb_toNat, Nat.shiftRight_eq_div_pow]
  have hlt : v.toNat < 2 ^ 64 := v.isLt
  have hbit : v.toNat / 2 ^ 63 % 2 = v.toNat / 2 ^ 63 := by omega
  rw [hbit] at hsign
  unfold Sign.ofBitVec
  split
  · rename_i hzero
    rw [hzero] at hsign
    rw [← hsign]
    rfl
  · rename_i hone
    have : (UnpackedFloat.unpackSign v).toNat ≠ 0 := fun h =>
      hone (BitVec.eq_of_toNat_eq h)
    rw [← hsign, show (UnpackedFloat.unpackSign v).toNat = 1 by omega]
    rfl

end

theorem toNat_one_append (m : BitVec 52) : (1#1 ++ m).toNat = 2 ^ 52 + m.toNat := by
  rw [BitVec.toNat_append, ← Nat.shiftLeft_add_eq_or_of_lt m.isLt]
  simp [Nat.shiftLeft_eq]

theorem ofUnpacked?_unpack (v : BitVec Format.binary64.numBits) :
    ofUnpacked? (UnpackedFloat.unpack Format.binary64 v) =
      if v.toNat / 2 ^ 52 % 2 ^ 11 = 2047 then none
      else if v.toNat / 2 ^ 52 % 2 ^ 11 = 0 then
        some ⟨v.toNat / 2 ^ 63 == 1, v.toNat % 2 ^ 52, leastExponent⟩
      else some ⟨v.toNat / 2 ^ 63 == 1, 2 ^ 52 + v.toNat % 2 ^ 52,
        (v.toNat / 2 ^ 52 % 2 ^ 11 : Nat) - 1075⟩ := by
  have hexponent := toNat_unpackExponent v
  have hmantissa := toNat_unpackMantissa v
  have hsign := isNegative_unpackSign v
  have hlast : UnpackedFloat.unpackExponent v = -BitVec.ofNat Format.binary64.exponentBits 1 ↔
      v.toNat / 2 ^ 52 % 2 ^ 11 = 2047 := by
    rw [← hexponent]
    exact ⟨fun h => by rw [h]; rfl, fun h => BitVec.eq_of_toNat_eq h⟩
  have hzero : UnpackedFloat.unpackExponent v = BitVec.ofNat Format.binary64.exponentBits 0 ↔
      v.toNat / 2 ^ 52 % 2 ^ 11 = 0 := by
    rw [← hexponent]
    exact ⟨fun h => by rw [h]; rfl, fun h => BitVec.eq_of_toNat_eq h⟩
  unfold UnpackedFloat.unpack
  dsimp only
  by_cases hend : v.toNat / 2 ^ 52 % 2 ^ 11 = 2047
  · rw [if_pos hend, if_pos (hlast.mpr hend)]
    split <;> rfl
  · rw [if_neg hend, if_neg (hlast.not.mpr hend)]
    by_cases hbegin : v.toNat / 2 ^ 52 % 2 ^ 11 = 0
    · rw [if_pos hbegin, if_pos (hzero.mpr hbegin)]
      by_cases hnone : UnpackedFloat.unpackMantissa v = 0#52
      · rw [dif_pos hnone]
        rw [hnone] at hmantissa
        rw [← hmantissa, ← hsign]
        rfl
      · rw [dif_neg hnone, ofUnpacked?_finite, hsign, hmantissa, hexponent, hbegin]
        rfl
    · rw [if_neg hbegin, if_neg (hzero.not.mpr hbegin), ofUnpacked?_finite, hsign, hexponent,
        ← hmantissa, toNat_one_append]
      rfl

theorem ofFloat?_eq (x : Float) : ofFloat? x = ofUnpacked? x.toModel.unpack :=
  (ofUnpacked?_unpack x.toBits.toBitVec).symm

/-! ## Packing -/

def greatestExponent : Int := 971

theorem toNat_packComponents (s : Sign) (exponent : BitVec 11) (mantissa : BitVec 52) :
    (UnpackedFloat.packComponents Format.binary64 s exponent mantissa).toNat =
      (if isNegative s then 1 else 0) * 2 ^ 63 + exponent.toNat * 2 ^ 52 + mantissa.toNat := by
  have hpair : (s.toBitVec ++ exponent).toNat =
      (if isNegative s then 1 else 0) * 2 ^ 11 + exponent.toNat := by
    rw [BitVec.toNat_append, ← Nat.shiftLeft_add_eq_or_of_lt exponent.isLt, Nat.shiftLeft_eq]
    cases s <;> rfl
  rw [UnpackedFloat.packComponents, BitVec.toNat_append,
    ← Nat.shiftLeft_add_eq_or_of_lt mantissa.isLt, Nat.shiftLeft_eq, hpair]
  omega

theorem ofUnpacked?_packComponents (s : Sign) (exponent : BitVec 11) (mantissa : BitVec 52) :
    ofUnpacked? (UnpackedFloat.unpack Format.binary64
        (UnpackedFloat.packComponents Format.binary64 s exponent mantissa)) =
      if exponent.toNat = 2047 then none
      else if exponent.toNat = 0 then some ⟨isNegative s, mantissa.toNat, leastExponent⟩
      else some ⟨isNegative s, 2 ^ 52 + mantissa.toNat, exponent.toNat - 1075⟩ := by
  have hexponent := exponent.isLt
  have hmantissa := mantissa.isLt
  rw [ofUnpacked?_unpack, toNat_packComponents]
  generalize exponent.toNat = ex at *
  generalize mantissa.toNat = mt at *
  have hnegative : ((if isNegative s then 1 else 0) * 2 ^ 63 + ex * 2 ^ 52 + mt) / 2 ^ 63 =
      if isNegative s then 1 else 0 := by
    split <;> omega
  have hbiased : ((if isNegative s then 1 else 0) * 2 ^ 63 + ex * 2 ^ 52 + mt) / 2 ^ 52 % 2 ^ 11 =
      ex := by
    split <;> omega
  have hfraction : ((if isNegative s then 1 else 0) * 2 ^ 63 + ex * 2 ^ 52 + mt) % 2 ^ 52 = mt := by
    split <;> omega
  rw [hnegative, hbiased, hfraction]
  cases s <;> rfl

theorem biasedExponent_eq (e : Int) : (e + Format.binary64.exponentBias +
    Format.binary64.mantissaBitsWithoutImplicit).toNat = (e + 1075).toNat := by
  congr 1
  rw [Int.add_assoc]
  rfl

/-- What is too great is packed to an infinity. -/
theorem ofUnpacked?_pack_of_lt (s : Sign) {m : Nat} {e : Int} (hm : 0 < m)
    (he : greatestExponent < e) :
    ofUnpacked? (Float.Model.pack (.finite s m e hm)).unpack = none := by
  have hbiased : 2 ^ Format.binary64.exponentBits ≤ (e + Format.binary64.exponentBias +
      Format.binary64.mantissaBitsWithoutImplicit).toNat + 1 := by
    have hbits : 2 ^ Format.binary64.exponentBits = 2048 := rfl
    simp only [greatestExponent] at he
    rw [biasedExponent_eq, hbits]
    omega
  have hpack : UnpackedFloat.pack Format.binary64 (.finite s m e hm) =
      UnpackedFloat.packedInfinity Format.binary64 s := if_pos hbiased
  have hunpack : (Float.Model.pack (.finite s m e hm)).unpack =
      UnpackedFloat.unpack Format.binary64
        (UnpackedFloat.pack Format.binary64 (.finite s m e hm)) := rfl
  rw [hunpack, hpack]
  exact ofUnpacked?_packComponents s (-1#11) 0#52

theorem ofUnpacked?_pack {u : UnpackedFloat} {b : Binary} (hu : ofUnpacked? u = some b)
    (hb : b.IsCanonical) (hgreatest : b.exponent ≤ greatestExponent) :
    ofUnpacked? (Float.Model.pack u).unpack = some b := by
  have hpack : (Float.Model.pack u).unpack =
      UnpackedFloat.unpack Format.binary64 (UnpackedFloat.pack Format.binary64 u) := rfl
  rw [hpack]
  cases u with
  | infinity s => cases hu
  | notANumber => cases hu
  | zero s =>
    rw [← hu]
    exact ofUnpacked?_packComponents s 0#11 0#52
  | finite s m e hm =>
    obtain ⟨hlt, hleast, hnormal⟩ := hb
    cases hu
    simp only [leastExponent, greatestExponent] at hlt hleast hnormal hgreatest
    have hlog : m.log2 + 1 = Format.binary64.mantissaBits ↔ 2 ^ 52 ≤ m := by
      have hmantissaBits : Format.binary64.mantissaBits = 53 := rfl
      have hlow : 52 ≤ m.log2 ↔ 2 ^ 52 ≤ m := Nat.le_log2 hm.ne'
      have hhigh : m.log2 < 53 ↔ m < 2 ^ 53 := Nat.log2_lt hm.ne'
      omega
    unfold UnpackedFloat.pack
    dsimp only
    rw [biasedExponent_eq, if_neg (show ¬ 2 ^ 11 ≤ (e + 1075).toNat + 1 by omega)]
    by_cases hdigits : 2 ^ 52 ≤ m
    · rw [if_pos (hlog.mpr hdigits), ofUnpacked?_packComponents]
      simp only [BitVec.toNat_ofNat]
      rw [if_neg (by omega), if_neg (by omega)]
      congr 2
      · omega
      · omega
    · rw [if_neg (hlog.not.mpr hdigits), ofUnpacked?_packComponents, if_neg (by decide),
        if_pos BitVec.toNat_zero, BitVec.toNat_ofNat]
      congr 2
      · omega
      · simp only [leastExponent]
        omega

/-- Every canonical float that is not too great is one. -/
theorem exists_ofFloat? {b : Binary} (hb : b.IsCanonical)
    (hgreatest : b.exponent ≤ greatestExponent) : ∃ x, ofFloat? x = some b := by
  obtain ⟨s, hs⟩ : ∃ s, isNegative s = b.negative := by
    cases b.negative with
    | false => exact ⟨.positive, rfl⟩
    | true => exact ⟨.negative, rfl⟩
  obtain ⟨u, hu⟩ : ∃ u, ofUnpacked? u = some b := by
    rcases Nat.eq_zero_or_pos b.significand with hzero | hpos
    · have hexponent : b.exponent = leastExponent := hb.normal.resolve_left (by omega)
      refine ⟨.zero s, congrArg some ?_⟩
      rw [hs, ← hzero, ← hexponent]
    · refine ⟨.finite s b.significand b.exponent hpos, ?_⟩
      rw [ofUnpacked?_finite, hs]
  exact ⟨⟨Float.Model.pack u⟩, (ofFloat?_eq _).trans (ofUnpacked?_pack hu hb hgreatest)⟩

/-- Up to 53 digits are written canonically by shifting them up, as far as exponents go. -/
theorem exists_canonical (negative : Bool) (n : Nat) {m : Nat} (hm : m < 2 ^ 53) :
    ∃ b : Binary, b.IsCanonical ∧ b.negative = negative ∧ b.exponent ≤ leastExponent + n ∧
      b.absValue = m * 2 ^ (leastExponent + n) := by
  induction n generalizing m with
  | zero => exact ⟨⟨negative, m, leastExponent⟩, ⟨hm, le_rfl, .inr rfl⟩, rfl, le_rfl, rfl⟩
  | succ n ih =>
    by_cases hnormal : 2 ^ 52 ≤ m
    · exact ⟨⟨negative, m, leastExponent + (n + 1 : Nat)⟩, ⟨hm, by simp only; omega, .inl hnormal⟩,
        rfl, le_rfl, rfl⟩
    · obtain ⟨b, hb, hnegative, hexponent, habs⟩ := ih (m := 2 * m) (by omega)
      refine ⟨b, hb, hnegative, by omega, ?_⟩
      have hunit : (2 : ℚ) ^ (leastExponent + (n + 1 : Nat)) = 2 ^ (leastExponent + n) * 2 := by
        rw [← zpow_add_one₀ (by norm_num)]
        congr 1
        omega
      rw [habs, hunit]
      push_cast
      ring

/-! ## Order -/

theorem absValue_nonneg (b : Binary) : 0 ≤ b.absValue :=
  mul_nonneg (Nat.cast_nonneg _) (zpow_nonneg (by norm_num) _)

theorem absValue_pos_iff {b : Binary} : 0 < b.absValue ↔ 0 < b.significand := by
  have hunit : (0 : ℚ) < 2 ^ b.exponent := zpow_pos (by norm_num) _
  rw [absValue, mul_pos_iff_of_pos_right hunit, Nat.cast_pos]

theorem absValue_pos {b : Binary} (h : 0 < b.significand) : 0 < b.absValue :=
  absValue_pos_iff.mpr h

theorem absValue_lt_of_exponent_lt {b c : Binary} (hb : b.IsCanonical) (hc : c.IsCanonical)
    (h : b.exponent < c.exponent) : b.absValue < c.absValue := by
  have hnormal : 2 ^ 52 ≤ c.significand := by
    have := hb.least_le
    exact hc.normal.resolve_right (by omega)
  have hunit : (0 : ℚ) < 2 ^ b.exponent := zpow_pos (by norm_num) _
  have hsignificand : (b.significand : ℚ) < 2 ^ 53 := by exact_mod_cast hb.significand_lt
  calc b.absValue < 2 ^ 53 * 2 ^ b.exponent := mul_lt_mul_of_pos_right hsignificand hunit
    _ = 2 ^ 52 * 2 ^ (b.exponent + 1) := by
      rw [zpow_add_one₀ (by norm_num)]
      ring
    _ ≤ c.significand * 2 ^ c.exponent := by
      have hpow : (2 : ℚ) ^ (b.exponent + 1) ≤ 2 ^ c.exponent :=
        zpow_le_zpow_right₀ (by norm_num) h
      exact mul_le_mul (by exact_mod_cast hnormal) hpow (zpow_nonneg (by norm_num) _)
        (Nat.cast_nonneg _)

theorem compares_absValue {b c : Binary} (hb : b.IsCanonical) (hc : c.IsCanonical) :
    ((compare b.exponent c.exponent).then (compare b.significand c.significand)).Compares
      b.absValue c.absValue := by
  rcases lt_trichotomy b.exponent c.exponent with hlt | heq | hgt
  · rw [compare_lt_iff_lt.mpr hlt]
    exact absValue_lt_of_exponent_lt hb hc hlt
  · have hunit : (0 : ℚ) < 2 ^ c.exponent := zpow_pos (by norm_num) _
    rw [compare_eq_iff_eq.mpr heq, absValue, absValue, heq]
    rcases lt_trichotomy b.significand c.significand with hlt | heq | hgt
    · rw [compare_lt_iff_lt.mpr hlt]
      exact mul_lt_mul_of_pos_right (Nat.cast_lt.mpr hlt) hunit
    · rw [compare_eq_iff_eq.mpr heq, heq]
      exact rfl
    · rw [compare_gt_iff_gt.mpr hgt]
      exact mul_lt_mul_of_pos_right (Nat.cast_lt.mpr hgt) hunit
  · rw [compare_gt_iff_gt.mpr hgt]
    exact absValue_lt_of_exponent_lt hc hb hgt

theorem abs_value (b : Binary) : |b.value| = b.absValue := by
  rw [value_eq]
  split
  · rw [abs_neg, abs_of_nonneg b.absValue_nonneg]
  · exact abs_of_nonneg b.absValue_nonneg

theorem compares_neg {o : Ordering} {p q : ℚ} (h : o.Compares p q) : o.swap.Compares (-p) (-q) := by
  cases o with
  | lt => exact neg_lt_neg h
  | eq => exact congrArg (- ·) h
  | gt => exact neg_lt_neg h

section

variable {m : Nat}

theorem value_zero (negative : Bool) (e : Int) : (Binary.mk negative 0 e).value = 0 := by
  rw [value_eq, absValue]
  simp

theorem value_positive (hm : 0 < m) (e : Int) : 0 < (Binary.mk false m e).value := by
  rw [value_eq]
  exact absValue_pos hm

theorem value_negative (hm : 0 < m) (e : Int) : (Binary.mk true m e).value < 0 := by
  rw [value_eq]
  exact neg_neg_of_pos (absValue_pos hm)

end

/-- Unpacked floats compare as their values do: by exponent and significand if they have the same
sign, and by their signs if not. -/
theorem exists_compares {u v : UnpackedFloat} {b c : Binary} (hu : ofUnpacked? u = some b)
    (hv : ofUnpacked? v = some c) (hb : b.IsCanonical) (hc : c.IsCanonical) :
    ∃ o : Ordering, u.compare v = some o ∧ o.Compares b.value c.value := by
  have hmagnitudes := compares_absValue hb hc
  cases u with
  | infinity s => cases hu
  | notANumber => cases hu
  | zero s =>
    cases hu
    cases v with
    | infinity t => cases hv
    | notANumber => cases hv
    | zero t =>
      cases hv
      exact ⟨.eq, rfl, (value_zero _ _).trans (value_zero _ _).symm⟩
    | finite t n f hn =>
      cases hv
      cases t with
      | negative => exact ⟨.gt, rfl, (value_negative hn f).trans_eq (value_zero _ _).symm⟩
      | positive => exact ⟨.lt, rfl, (value_zero _ _).trans_lt (value_positive hn f)⟩
  | finite s m e hm =>
    cases hu
    cases v with
    | infinity t => cases hv
    | notANumber => cases hv
    | zero t =>
      cases hv
      cases s with
      | negative => exact ⟨.lt, rfl, (value_negative hm e).trans_eq (value_zero _ _).symm⟩
      | positive => exact ⟨.gt, rfl, (value_zero _ _).trans_lt (value_positive hm e)⟩
    | finite t n f hn =>
      cases hv
      cases s with
      | negative =>
        cases t with
        | negative =>
          refine ⟨_, rfl, ?_⟩
          rw [value_eq, value_eq]
          exact compares_neg hmagnitudes
        | positive => exact ⟨.lt, rfl, (value_negative hm e).trans (value_positive hn f)⟩
      | positive =>
        cases t with
        | negative => exact ⟨.gt, rfl, (value_negative hn f).trans (value_positive hm e)⟩
        | positive =>
          refine ⟨_, rfl, ?_⟩
          rw [value_eq, value_eq]
          exact hmagnitudes

theorem le_greatestExponent {x : Float} {b : Binary} (h : ofFloat? x = some b) :
    b.exponent ≤ greatestExponent := by
  unfold ofFloat? at h
  simp only [Nat.pow_eq] at h
  split at h
  · cases h
  · split at h
    · cases h
      simp only [leastExponent, greatestExponent]
      omega
    · cases h
      simp only [greatestExponent]
      omega

end Binary

/-- The rational that a float stands for; none for NaN and the infinities. -/
def exactValue? (x : Float) : Option ℚ := (Binary.ofFloat? x).map Binary.value

theorem exactValue?_eq_some_iff {x : Float} {q : ℚ} :
    exactValue? x = some q ↔ ∃ b, Binary.ofFloat? x = some b ∧ b.value = q := Option.map_eq_some_iff

/-- Whole multiples of a power of two are floats if they have no more than 53 digits. -/
theorem exists_exactValue? {k e : ℤ} (hk : k.natAbs < 2 ^ 53) (hleast : Binary.leastExponent ≤ e)
    (hgreatest : e ≤ Binary.greatestExponent) : ∃ x, exactValue? x = some ((k : ℚ) * 2 ^ e) := by
  obtain ⟨n, rfl⟩ : ∃ n : Nat, e = Binary.leastExponent + n :=
    ⟨(e - Binary.leastExponent).toNat, by omega⟩
  obtain ⟨b, hb, hnegative, hexponent, habs⟩ := Binary.exists_canonical (decide (k < 0)) n hk
  obtain ⟨x, hx⟩ := Binary.exists_ofFloat? hb (hexponent.trans hgreatest)
  refine ⟨x, exactValue?_eq_some_iff.mpr ⟨b, hx, ?_⟩⟩
  rw [Binary.value_eq, hnegative, habs, Nat.cast_natAbs]
  by_cases hneg : k < 0
  · rw [if_pos (decide_eq_true hneg), abs_of_neg hneg]
    push_cast
    ring
  · rw [if_neg (by simpa using hneg), abs_of_nonneg (not_lt.mp hneg)]

theorem exactValue?_zero : exactValue? 0 = some 0 := by decide +kernel

theorem isFinite_iff_exactValue? {x : Float} : x.isFinite = true ↔ ∃ q, exactValue? x = some q := by
  rw [Binary.isFinite_iff]
  exact ⟨fun ⟨b, hb⟩ => ⟨b.value, exactValue?_eq_some_iff.mpr ⟨b, hb, rfl⟩⟩,
    fun ⟨q, hq⟩ => (exactValue?_eq_some_iff.mp hq).imp fun _ h => h.1⟩

section

variable {x y : Float} {p q : ℚ}

theorem exists_compares (hx : exactValue? x = some p) (hy : exactValue? y = some q) :
    ∃ o : Ordering, x.toModel.unpack.compare y.toModel.unpack = some o ∧ o.Compares p q := by
  obtain ⟨b, hb, rfl⟩ := exactValue?_eq_some_iff.mp hx
  obtain ⟨c, hc, rfl⟩ := exactValue?_eq_some_iff.mp hy
  have hu := (Binary.ofFloat?_eq x).symm.trans hb
  have hv := (Binary.ofFloat?_eq y).symm.trans hc
  exact Binary.exists_compares hu hv (Binary.isCanonical_of_ofFloat? hb)
    (Binary.isCanonical_of_ofFloat? hc)

theorem lt_iff_compare : x < y ↔ x.toModel.unpack.compare y.toModel.unpack = some .lt := by
  have hdecide : x < y ↔ decide (x.toModel < y.toModel) = true := Iff.rfl
  have hmodel : x.toModel < y.toModel ↔
      (x.toModel.unpack.compare y.toModel.unpack == some .lt) = true := Iff.rfl
  rw [hdecide, decide_eq_true_iff, hmodel, beq_iff_eq]

theorem le_iff_compare :
    x ≤ y ↔ (x.toModel.unpack.compare y.toModel.unpack).any (·.isLE) = true := by
  have hdecide : x ≤ y ↔ decide (x.toModel ≤ y.toModel) = true := Iff.rfl
  have hmodel : x.toModel ≤ y.toModel ↔
      (x.toModel.unpack.compare y.toModel.unpack).any (·.isLE) = true := Iff.rfl
  rw [hdecide, decide_eq_true_iff, hmodel]

theorem beq_iff_compare :
    (x == y) = true ↔ x.toModel.unpack.compare y.toModel.unpack = some .eq := by
  have hmodel : (x == y) = (x.toModel.unpack.compare y.toModel.unpack == some .eq) := rfl
  rw [hmodel, beq_iff_eq]

theorem float_lt_iff (hx : exactValue? x = some p) (hy : exactValue? y = some q) :
    x < y ↔ p < q := by
  obtain ⟨o, hcompare, ho⟩ := exists_compares hx hy
  rw [lt_iff_compare, hcompare, Option.some.injEq]
  exact ho.eq_lt

theorem float_le_iff (hx : exactValue? x = some p) (hy : exactValue? y = some q) :
    x ≤ y ↔ p ≤ q := by
  obtain ⟨o, hcompare, ho⟩ := exists_compares hx hy
  rw [le_iff_compare, hcompare, Option.any_some, Ordering.isLE_iff_ne_gt]
  exact ho.ne_gt

theorem float_beq_iff (hx : exactValue? x = some p) (hy : exactValue? y = some q) :
    (x == y) = true ↔ p = q := by
  obtain ⟨o, hcompare, ho⟩ := exists_compares hx hy
  rw [beq_iff_compare, hcompare, Option.some.injEq]
  exact ho.eq_eq

theorem not_finite_cases (h : exactValue? x = none) :
    (∃ s, x.toModel.unpack = .infinity s) ∨ x.toModel.unpack = .notANumber := by
  rw [exactValue?, Option.map_eq_none_iff, Binary.ofFloat?_eq] at h
  cases hunpack : x.toModel.unpack with
  | infinity s => exact .inl ⟨s, rfl⟩
  | notANumber => exact .inr rfl
  | zero s => rw [hunpack] at h; cases h
  | finite s m e hm => rw [hunpack] at h; cases h

theorem unpack_pack_infinity (s : Sign) :
    (Float.Model.pack (.infinity s)).unpack = .infinity s := by
  cases s <;> rfl

theorem unpack_pack_notANumber : (Float.Model.pack .notANumber).unpack = .notANumber := by rfl

theorem unpack_infinity : (1 / 0 : Float).toModel.unpack = .infinity .positive := by rfl

theorem lt_infinity (hx : exactValue? x = some p) : x < 1 / 0 := by
  obtain ⟨b, hb, -⟩ := exactValue?_eq_some_iff.mp hx
  rw [Binary.ofFloat?_eq] at hb
  rw [lt_iff_compare, unpack_infinity]
  cases hunpack : x.toModel.unpack with
  | infinity s => rw [hunpack] at hb; cases hb
  | notANumber => rw [hunpack] at hb; cases hb
  | zero s => rfl
  | finite s m e hm => rfl

theorem toModel_abs (x : Float) : x.abs.toModel = Float.Model.pack x.toModel.unpack.abs := rfl

theorem unpack_abs_cases (h : exactValue? x = none) :
    x.abs.toModel.unpack = .infinity .positive ∨ x.abs.toModel.unpack = .notANumber := by
  rw [toModel_abs]
  rcases not_finite_cases h with ⟨s, hunpack⟩ | hunpack
  · rw [hunpack]
    exact .inl (unpack_pack_infinity .positive)
  · rw [hunpack]
    exact .inr unpack_pack_notANumber

theorem exactValue?_abs (hx : exactValue? x = some p) : exactValue? x.abs = some |p| := by
  obtain ⟨b, hb, rfl⟩ := exactValue?_eq_some_iff.mp hx
  have hcanonical : ({ b with negative := false } : Binary).IsCanonical := by
    obtain ⟨hlt, hleast, hnormal⟩ := Binary.isCanonical_of_ofFloat? hb
    exact ⟨hlt, hleast, hnormal⟩
  have hgreatest : b.exponent ≤ Binary.greatestExponent := Binary.le_greatestExponent hb
  have hu : Binary.ofUnpacked? x.toModel.unpack.abs = some { b with negative := false } := by
    rw [Binary.ofFloat?_eq] at hb
    cases hunpack : x.toModel.unpack with
    | infinity s => rw [hunpack] at hb; cases hb
    | notANumber => rw [hunpack] at hb; cases hb
    | zero s => rw [hunpack] at hb; cases hb; rfl
    | finite s m e hm => rw [hunpack] at hb; cases hb; rfl
  have hvalue : ({ b with negative := false } : Binary).value = |b.value| := by
    rw [Binary.abs_value, Binary.value_eq]
    rfl
  rw [exactValue?, Binary.ofFloat?_eq, toModel_abs,
    Binary.ofUnpacked?_pack hu hcanonical hgreatest, Option.map_some, hvalue]

theorem not_abs_lt (hx : exactValue? x = none) (y : Float) : ¬ x.abs < y := by
  rw [lt_iff_compare]
  rcases unpack_abs_cases hx with hunpack | hunpack
  · rw [hunpack]
    cases y.toModel.unpack with
    | infinity s => cases s <;> decide
    | notANumber => nofun
    | zero s => nofun
    | finite s m e hm => nofun
  · rw [hunpack]
    nofun

end

end SceneMarkup
