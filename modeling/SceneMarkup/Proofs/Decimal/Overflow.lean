import SceneMarkup.Proofs.Decimal.Underflow

/-!
# Products and quotients that stay finite

A product of finite floats is finite or an infinity (`finite_or_infinite_mul`). A quotient by a float
that is not small has an exponent that is hardly greater (`boundedFloat_div`), so that it is finite after
any few divisions. The powers of ten that a float can hold are not small (`largeFloat_ofScientific`).
The bounds are rough: they only have to keep clear of the greatest exponent.
-/

namespace SceneMarkup

open Float.Model (UnpackedFloat Format totalExponent)
open Float.Model.UnpackedFloat (Sign Accuracy ExtendedMantissa shiftToTargetExponent
  roundWithAccuracy)

namespace Binary

variable {u v : UnpackedFloat} {k : Int}

/-- A zero or finite number whose exponent is not greater. -/
def BoundedParts (k : Int) (u : UnpackedFloat) : Prop :=
  ∃ b, ofUnpacked? u = some b ∧ b.exponent ≤ k

/-! ## Packing -/

theorem unpack_pack_of_lt (s : Sign) {m : Nat} {e : Int} (hm : 0 < m)
    (he : greatestExponent < e) :
    (Float.Model.pack (.finite s m e hm)).unpack = .infinity s := by
  have hbiased : 2 ^ Format.binary64.exponentBits ≤ (e + Format.binary64.exponentBias +
      Format.binary64.mantissaBitsWithoutImplicit).toNat + 1 := by
    have hbits : 2 ^ Format.binary64.exponentBits = 2048 := rfl
    simp only [greatestExponent] at he
    rw [biasedExponent_eq, hbits]
    omega
  have hpack : UnpackedFloat.pack Format.binary64 (.finite s m e hm) =
      UnpackedFloat.packedInfinity Format.binary64 s := if_pos hbiased
  have hunpack : (Float.Model.pack (.finite s m e hm)).unpack =
      UnpackedFloat.unpack Format.binary64
        (UnpackedFloat.pack Format.binary64 (.finite s m e hm)) := rfl
  rw [hunpack, hpack]
  exact unpack_pack_infinity s

theorem boundedParts_packComponents (s : Sign) {exponent : BitVec 11}
    (hfinite : exponent.toNat ≠ 2047) (hexponent : (exponent.toNat : Int) - 1075 ≤ k)
    (hleast : leastExponent ≤ k) (mantissa : BitVec 52) :
    BoundedParts k (UnpackedFloat.unpack Format.binary64
      (UnpackedFloat.packComponents Format.binary64 s exponent mantissa)) := by
  rw [BoundedParts, ofUnpacked?_packComponents, if_neg hfinite]
  split
  · exact ⟨_, rfl, hleast⟩
  · exact ⟨_, rfl, hexponent⟩

/-- Packing does not raise an exponent that is not too great. -/
theorem boundedParts_pack (h : BoundedParts k u) (hleast : leastExponent ≤ k)
    (hgreatest : k ≤ greatestExponent) : BoundedParts k (Float.Model.pack u).unpack := by
  obtain ⟨b, hb, hexponent⟩ := h
  have hpack : (Float.Model.pack u).unpack =
      UnpackedFloat.unpack Format.binary64 (UnpackedFloat.pack Format.binary64 u) := rfl
  have hzero : ((0#11 : BitVec 11).toNat : Int) - 1075 ≤ k := by
    simp only [leastExponent] at hleast
    simp only [BitVec.toNat_zero]
    omega
  have hsmall (s : Sign) := boundedParts_packComponents s (by decide) hzero hleast
  rw [hpack]
  cases u with
  | infinity s => cases hb
  | notANumber => cases hb
  | zero s => exact hsmall s 0#52
  | finite s m e hm =>
    cases hb
    simp only [greatestExponent] at hgreatest hexponent
    unfold UnpackedFloat.pack
    dsimp only
    rw [biasedExponent_eq, if_neg (show ¬ 2 ^ 11 ≤ (e + 1075).toNat + 1 by omega)]
    have hbits : (BitVec.ofNat 11 (e + 1075).toNat).toNat = (e + 1075).toNat := by
      rw [BitVec.toNat_ofNat]
      omega
    split
    · have hnonzero : ((BitVec.ofNat 11 (e + 1075).toNat).toNat : Int) - 1075 ≤ k := by
        simp only [leastExponent] at hleast
        omega
      exact boundedParts_packComponents s (by omega) hnonzero hleast _
    · exact hsmall s _

/-! ## Rounding -/

theorem mantissa_ofMantissaAndAccuracy (m : Nat) (accuracy : Accuracy) :
    (ExtendedMantissa.ofMantissaAndAccuracy m accuracy).mantissa = m := by
  rcases accuracy with _ | o
  · rfl
  · cases o <;> rfl

theorem boundedParts_finish (s : Sign) (m : Nat) {e : Int} (he : e ≤ k) (hleast : leastExponent ≤ k) :
    BoundedParts k
      (if hm : m = 0 then .zero s else .finite s m e (Nat.pos_of_ne_zero hm)) := by
  by_cases hm : m = 0
  · rw [dif_pos hm]
    exact ⟨_, rfl, hleast⟩
  · rw [dif_neg hm]
    exact ⟨_, rfl, he⟩

/-- Rounding raises an exponent by one at most above that of the last digit that is kept. -/
theorem boundedParts_roundWithAccuracy (s : Sign) {m : Nat} {e : Int} (accuracy : Accuracy)
    (he : e ≤ k) (hlog : (m.log2 : Int) + e ≤ k + 52) (hleast : leastExponent ≤ k) :
    BoundedParts (k + 1) (roundWithAccuracy Format.binary64 s m e accuracy) := by
  simp only [leastExponent] at hleast
  have htarget := targetExponent_totalExponent m e
  generalize hT : Format.binary64.targetExponent (totalExponent m e) = T at htarget
  obtain ⟨n, hn⟩ : ∃ n, n = (T - e).toNat := ⟨_, rfl⟩
  rw [roundWithAccuracy, shiftToTargetExponent, hT]
  unfold Float.Model.UnpackedFloat.shiftToExponent
  dsimp only
  rw [← hn]
  have hkept := mantissa_shiftRight (ExtendedMantissa.ofMantissaAndAccuracy m accuracy) n
  rw [mantissa_ofMantissaAndAccuracy] at hkept
  have hrounded := (roundedMantissa_bounds
    (ExtendedMantissa.ofMantissaAndAccuracy m accuracy >>> n)).2
  rw [hkept] at hrounded
  generalize (ExtendedMantissa.ofMantissaAndAccuracy m accuracy >>> n).roundedMantissa = r at hrounded
  have hfew : m / 2 ^ n < 2 ^ 53 := by
    rw [Nat.div_lt_iff_lt_mul (Nat.two_pow_pos n), ← Nat.pow_add]
    exact Nat.lt_log2_self.trans_le (Nat.pow_le_pow_right (by decide) (by omega))
  have hlog' : r.log2 ≤ 53 := by
    by_cases hr : r = 0
    · rw [hr]
      decide
    · exact Nat.le_of_lt_succ ((Nat.log2_lt hr).mpr (by omega))
  rw [shiftToTargetExponent, targetExponent_totalExponent]
  unfold Float.Model.UnpackedFloat.shiftToExponent
  exact boundedParts_finish s _ (by simp only; omega) (by simp only [leastExponent]; omega)

theorem log2_shiftLeft_le (m shift : Nat) : (m <<< shift).log2 ≤ m.log2 + shift := by
  by_cases hm : m <<< shift = 0
  · rw [hm]
    exact Nat.zero_le _
  · refine Nat.le_of_lt_succ ((Nat.log2_lt hm).mpr ?_)
    rw [Nat.shiftLeft_eq, show (m.log2 + shift).succ = m.log2 + 1 + shift by omega, Nat.pow_add]
    exact Nat.mul_lt_mul_of_pos_right Nat.lt_log2_self (Nat.two_pow_pos shift)

theorem boundedParts_round (s : Sign) {m : Nat} {e : Int} (he : e ≤ k)
    (hlog : (m.log2 : Int) + e ≤ k + 52) (hleast : leastExponent ≤ k) :
    BoundedParts (k + 1) (Float.Model.UnpackedFloat.round Format.binary64 s m e) := by
  rw [Float.Model.UnpackedFloat.round]
  dsimp only [Float.Model.UnpackedFloat.decreaseExponent]
  generalize (e - Format.binary64.targetExponent (totalExponent m e)).toNat = shift
  have hshifted := log2_shiftLeft_le m shift
  exact boundedParts_roundWithAccuracy s .exact (by omega) (by omega) hleast

/-! ## Naturals with zeros behind them -/

theorem ofScientific_eq {m n : Nat} (hm : m ≠ 0) (hn : n ≤ 2048) :
    UnpackedFloat.ofScientific Format.binary64 m n =
      roundWithAccuracy Format.binary64 .positive (m <<< 53 * 10 ^ n) (-53) .exact := by
  have hbits : (2 ^ Format.binary64.exponentBits : Int) = 2048 := rfl
  rw [UnpackedFloat.ofScientific, dif_neg hm, hbits, if_neg (by omega), if_neg (by omega),
    if_pos (by omega)]
  rfl

theorem exists_pack_ofScientific {m n : Nat} (hm : m ≠ 0) (hn : n ≤ 2048) (hleast : -53 ≤ k)
    (hlog : ((m <<< 53 * 10 ^ n).log2 : Int) ≤ k + 105) (hgreatest : k < greatestExponent) :
    ∃ c, ofUnpacked? (Float.Model.pack (UnpackedFloat.ofScientific Format.binary64 m n)).unpack =
        some c ∧ 0 < c.significand ∧ -52 ≤ c.exponent ∧ c.exponent ≤ k + 1 := by
  have hmany : 2 ^ 53 ≤ m <<< 53 * 10 ^ n := by
    rw [Nat.shiftLeft_eq, Nat.mul_right_comm]
    exact Nat.le_mul_of_pos_left _ (Nat.mul_pos (Nat.pos_of_ne_zero hm) (Nat.pow_pos (by decide)))
  obtain ⟨c, hc, hpos, hlarge, hround⟩ := exists_roundWithAccuracy .positive hmany
    (show leastExponent ≤ -53 by decide)
  have hbounded := boundedParts_roundWithAccuracy .positive (m := m <<< 53 * 10 ^ n) .exact hleast
    (by omega) (show leastExponent ≤ k by simp only [leastExponent]; omega)
  rw [ofScientific_eq hm hn]
  rw [hround] at hbounded ⊢
  obtain ⟨b, hb, hexponent⟩ := hbounded
  have hparts : ofUnpacked? (.finite .positive c.significand c.exponent hpos) =
      some ⟨false, c.significand, c.exponent⟩ := rfl
  rw [hparts] at hb
  cases hb
  have hpacked := ofUnpacked?_pack hparts ⟨hc.significand_lt, hc.least_le, hc.normal⟩ (by
    simp only at hexponent ⊢
    omega)
  exact ⟨_, hpacked, hpos, by simp only; omega, hexponent⟩

/-! ## Products and quotients -/

theorem boundedParts_mul {b c : Binary} {j : Int} (hu : ofUnpacked? u = some b)
    (hb : b.exponent ≤ j) (hbdigits : b.significand < 2 ^ 53) (hv : ofUnpacked? v = some c)
    (hc : c.exponent ≤ k) (hcdigits : c.significand < 2 ^ 53) (hleast : leastExponent ≤ j + k) :
    BoundedParts (j + k + 54) (UnpackedFloat.mul Format.binary64 u v) := by
  have hzero (s : Sign) : BoundedParts (j + k + 54) (.zero s) :=
    ⟨_, rfl, by simp only; omega⟩
  cases u with
  | infinity s => cases hu
  | notANumber => cases hu
  | zero s =>
    cases v with
    | infinity t => cases hv
    | notANumber => cases hv
    | zero t => exact hzero _
    | finite t n f hn => exact hzero _
  | finite s m e hm =>
    cases v with
    | infinity t => cases hv
    | notANumber => cases hv
    | zero t => exact hzero _
    | finite t n f hn =>
      cases hu
      cases hv
      simp only at hb hbdigits hc hcdigits
      have hproduct : m * n < 2 ^ 53 * 2 ^ 53 := Nat.mul_lt_mul'' hbdigits hcdigits
      have hlog : (m * n).log2 < 106 := (Nat.log2_lt (Nat.mul_pos hm hn).ne').mpr
        (hproduct.trans_eq (Nat.pow_add 2 53 53).symm)
      have hround := boundedParts_roundWithAccuracy (s * t) .exact
        (show e + f ≤ j + k + 53 by omega)
        (show ((m * n).log2 : Int) + (e + f) ≤ j + k + 53 + 52 by omega) (by omega)
      rwa [show j + k + 53 + 1 = j + k + 54 by omega] at hround

/-- A quotient by what is not small has an exponent that is hardly greater. -/
theorem boundedParts_div {b c : Binary} (hu : ofUnpacked? u = some b) (hexponent : b.exponent ≤ k)
    (hdigits : b.significand < 2 ^ 53) (hleast : leastExponent ≤ k) (hv : ofUnpacked? v = some c)
    (hpos : 0 < c.significand) (hlarge : -52 ≤ c.exponent) :
    BoundedParts (k + 53) (UnpackedFloat.div Format.binary64 u v) := by
  cases v with
  | infinity t => cases hv
  | notANumber => cases hv
  | zero t =>
    cases hv
    exact absurd hpos (Nat.lt_irrefl 0)
  | finite t n f hn =>
    cases hv
    cases u with
    | infinity s => cases hu
    | notANumber => cases hu
    | zero s => exact ⟨_, rfl, by simp only; omega⟩
    | finite s m e hm =>
      cases hu
      simp only at hexponent hdigits hlarge
      unfold UnpackedFloat.div
      dsimp only
      unfold UnpackedFloat.divCore
      dsimp only
      generalize hT : min (e - f) (Format.binary64.targetExponent
        (totalExponent m e - totalExponent n f)) = T
      have hle : T ≤ e - f := hT ▸ min_le_left _ _
      obtain ⟨shift, hshift⟩ : ∃ shift, shift = (e - f - T).toNat := ⟨_, rfl⟩
      rw [← hshift]
      have hquotient : m <<< shift / n < 2 ^ (53 + shift) := by
        refine (Nat.div_le_self _ _).trans_lt ?_
        rw [Nat.shiftLeft_eq, Nat.pow_add]
        exact Nat.mul_lt_mul_of_pos_right hdigits (Nat.two_pow_pos shift)
      have hlog : (m <<< shift / n).log2 ≤ 52 + shift := by
        by_cases hzero : m <<< shift / n = 0
        · rw [hzero]
          exact Nat.zero_le _
        · exact Nat.le_of_lt_succ (((Nat.log2_lt hzero).mpr hquotient).trans_eq (by omega))
      have hround (accuracy : Accuracy) := boundedParts_roundWithAccuracy (s / t) accuracy
        (show T ≤ k + 52 by omega) (show ((m <<< shift / n).log2 : Int) + T ≤ k + 52 + 52 by omega)
        (by omega)
      rw [show k + 52 + 1 = k + 53 by omega] at hround
      exact hround _

end Binary

/-! ## Floats -/

open Binary (BoundedParts)

def BoundedFloat (k : Int) (x : Float) : Prop := ∃ b, Binary.ofFloat? x = some b ∧ b.exponent ≤ k

def LargeFloat (x : Float) : Prop :=
  ∃ b, Binary.ofFloat? x = some b ∧ 0 < b.significand ∧ -52 ≤ b.exponent

instance (x : Float) : Decidable (LargeFloat x) :=
  match h : Binary.ofFloat? x with
  | none => .isFalse fun ⟨_, hb, _⟩ => nomatch h.symm.trans hb
  | some b => decidable_of_iff (0 < b.significand ∧ -52 ≤ b.exponent)
    ⟨fun hb => ⟨b, h, hb⟩, fun ⟨_, hc, hlarge⟩ => Option.some.inj (h.symm.trans hc) ▸ hlarge⟩

section

variable {x y : Float} {k : Int}

theorem BoundedFloat.isFinite (h : BoundedFloat k x) : x.isFinite = true :=
  Binary.isFinite_iff.mpr (h.imp fun _ hb => hb.1)

theorem LargeFloat.isFinite (h : LargeFloat x) : x.isFinite = true :=
  Binary.isFinite_iff.mpr (h.imp fun _ hb => hb.1)

theorem boundedFloat_iff : BoundedFloat k x ↔ BoundedParts k x.toModel.unpack := by
  rw [BoundedFloat, BoundedParts, Binary.ofFloat?_eq]

theorem isFinite_iff_boundedFloat : x.isFinite = true ↔ BoundedFloat Binary.greatestExponent x := by
  rw [Binary.isFinite_iff]
  exact ⟨fun ⟨b, hb⟩ => ⟨b, hb, Binary.le_greatestExponent hb⟩, fun ⟨b, hb, _⟩ => ⟨b, hb⟩⟩

theorem finite_or_infinite {u : UnpackedFloat} (hu : BoundedParts k u)
    (hx : x.toModel = Float.Model.pack u) : x.isFinite = true ∨ x.isInf = true := by
  rw [isFinite_iff_boundedFloat, boundedFloat_iff, Float.isInf, Float.Model.isInf, hx]
  obtain ⟨b, hb, -⟩ := hu
  cases u with
  | infinity s => cases hb
  | notANumber => cases hb
  | zero s =>
    have hleast : Binary.leastExponent ≤ Binary.greatestExponent := by decide
    exact .inl (Binary.boundedParts_pack ⟨_, rfl, hleast⟩ hleast le_rfl)
  | finite s m e hm =>
    rcases Int.lt_or_le Binary.greatestExponent e with hgreat | hgreatest
    · rw [Binary.unpack_pack_of_lt s hm hgreat]
      exact .inr rfl
    · exact .inl (Binary.boundedParts_pack ⟨_, rfl, hgreatest⟩ (by decide) le_rfl)

theorem boundedParts_toModel_mul {j : Int} (hx : BoundedFloat j x) (hy : BoundedFloat k y)
    (hleast : Binary.leastExponent ≤ j + k) :
    BoundedParts (j + k + 54) (UnpackedFloat.mul Format.binary64 x.toModel.unpack y.toModel.unpack) := by
  obtain ⟨b, hb, hbexponent⟩ := hx
  obtain ⟨c, hc, hcexponent⟩ := hy
  have hbdigits := (Binary.isCanonical_of_ofFloat? hb).significand_lt
  have hcdigits := (Binary.isCanonical_of_ofFloat? hc).significand_lt
  rw [Binary.ofFloat?_eq] at hb hc
  exact Binary.boundedParts_mul hb hbexponent hbdigits hc hcexponent hcdigits hleast

/-- **A product of finite floats is finite or an infinity.** -/
theorem finite_or_infinite_mul (hx : x.isFinite = true) (hy : y.isFinite = true) :
    (x * y).isFinite = true ∨ (x * y).isInf = true := by
  rw [isFinite_iff_boundedFloat] at hx hy
  exact finite_or_infinite (boundedParts_toModel_mul hx hy (by decide)) rfl

/-- **A quotient by what is not small has an exponent that is hardly greater.** -/
theorem boundedFloat_div (hx : BoundedFloat k x) (hleast : Binary.leastExponent ≤ k)
    (hgreatest : k + 53 ≤ Binary.greatestExponent) (hy : LargeFloat y) :
    BoundedFloat (k + 53) (x / y) := by
  obtain ⟨b, hb, hexponent⟩ := hx
  obtain ⟨c, hy, hpos, hlarge⟩ := hy
  have hdigits := (Binary.isCanonical_of_ofFloat? hb).significand_lt
  rw [Binary.ofFloat?_eq] at hb hy
  have hquotient := Binary.boundedParts_div hb hexponent hdigits hleast hy hpos hlarge
  exact boundedFloat_iff.mpr (Binary.boundedParts_pack hquotient (by omega) hgreatest)

/-! ## Conversions -/

theorem boundedFloat_toFloat {w : UInt64} (hw : w.toNat < 2 ^ 53) : BoundedFloat 1 w.toFloat := by
  have hmodel : w.toFloat.toModel = Float.Model.pack (UnpackedFloat.normalize Format.binary64
      (w.toNat : Int) 0 .positive) := rfl
  rw [boundedFloat_iff, hmodel]
  generalize w.toNat = n at hw
  refine Binary.boundedParts_pack ?_ (by decide) (by decide)
  rcases Nat.eq_zero_or_pos n with rfl | hpos
  · exact ⟨_, rfl, by decide⟩
  · have hlog : n.log2 < 53 := (Nat.log2_lt hpos.ne').mpr hw
    rw [show ((n : Nat) : Int) = Sign.positive.apply (n : Int) from rfl,
      Binary.normalize_apply .positive hpos]
    exact Binary.boundedParts_round (k := 0) .positive le_rfl (by omega) (by decide)

theorem boundedFloat_ofNat {n : Nat} (hn : n < 2 ^ 64) : BoundedFloat 55 (Float.ofNat n) := by
  have hconvert : Float.ofNat n = Float.ofScientific n false 0 := rfl
  rw [hconvert, boundedFloat_iff, Float.ofScientific]
  split
  · rename_i hfew
    -- a natural that a float holds is converted as it is, and multiplied by one
    have hexact : BoundedFloat 1 n.toUInt64.toFloat := by
      refine boundedFloat_toFloat ?_
      rw [Nat.toUInt64, UInt64.toNat_ofNat', Nat.mod_eq_of_lt hn]
      exact hfew.1
    have hone : BoundedFloat 0 Float.exactlyRepresentablePowersOfTen[0] :=
      ⟨⟨false, 2 ^ 52, -52⟩, by decide +kernel, by decide⟩
    exact Binary.boundedParts_pack (boundedParts_toModel_mul hexact hone (by decide)) (by decide)
      (by decide)
  · rename_i hmany
    have hne : n ≠ 0 := by
      rintro rfl
      exact hmany ⟨by decide, by decide⟩
    have hlog : n.log2 < 64 := (Nat.log2_lt hne).mpr hn
    have hshifted := Binary.log2_shiftLeft_le n 53
    obtain ⟨c, hc, -, -, hexponent⟩ := Binary.exists_pack_ofScientific (k := 54) hne (Nat.zero_le 2048)
      (by decide) (by rw [Nat.pow_zero, Nat.mul_one]; omega) (by decide)
    exact ⟨c, hc, hexponent⟩

theorem largeFloat_ofScientific {n : Nat} (hn : n ≤ 308) :
    LargeFloat (Float.ofScientific 1 false n) := by
  rcases Nat.lt_or_ge 22 n with hgreat | hless
  · rcases Nat.lt_or_eq_of_le hn with hlt | rfl
    · have hmodel : (Float.ofScientific 1 false n).toModel =
          Float.Model.pack (UnpackedFloat.ofScientific Format.binary64 1 n) := by
        rw [Float.ofScientific, dif_neg (by omega)]
        rfl
      have hdigits : (1 <<< 53 * 10 ^ n).log2 < 1073 := by
        rw [Nat.log2_lt (Nat.mul_pos (by decide) (Nat.pow_pos (by decide))).ne']
        calc 1 <<< 53 * 10 ^ n ≤ 1 <<< 53 * 10 ^ 307 :=
              Nat.mul_le_mul_left _ (Nat.pow_le_pow_right (by decide) (by omega))
          _ < 2 ^ 1073 := by decide +kernel
      obtain ⟨c, hc, hpos, hlarge, -⟩ := Binary.exists_pack_ofScientific (k := 967) Nat.one_ne_zero
        (show n ≤ 2048 by omega) (by decide) (by omega) (by decide)
      rw [← hmodel, ← Binary.ofFloat?_eq] at hc
      exact ⟨c, hc, hpos, hlarge⟩
    · -- the digits of the greatest one would leave room for a carry
      decide +kernel
  · have hall : ∀ n < 23, LargeFloat (Float.ofScientific 1 false n) := by decide +kernel
    exact hall n (Nat.lt_succ_of_le hless)

theorem isFinite_neg (hx : x.isFinite = true) : (-x).isFinite = true := by
  rw [isFinite_iff_boundedFloat, boundedFloat_iff] at hx ⊢
  have hneg : (-x).toModel = Float.Model.pack x.toModel.unpack.neg := rfl
  rw [hneg]
  obtain ⟨b, hb, hexponent⟩ := hx
  refine Binary.boundedParts_pack ?_ (by decide) le_rfl
  cases hunpack : x.toModel.unpack with
  | infinity s => rw [hunpack] at hb; cases hb
  | notANumber => rw [hunpack] at hb; cases hb
  | zero s => rw [hunpack] at hb; cases hb; exact ⟨_, rfl, hexponent⟩
  | finite s m e hm => rw [hunpack] at hb; cases hb; exact ⟨_, rfl, hexponent⟩

end

end SceneMarkup
