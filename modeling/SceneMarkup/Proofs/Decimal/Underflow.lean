import SceneMarkup.Proofs.Decimal.Differences

/-!
# Differences that do not vanish

The difference of floats with different values is not computed to be zero
(`exactValue?_sub_ne_zero`). If it has no more than 53 digits, it is a float. If it has more,
rounding keeps the first 53 of them, or carries into these, and they begin with a one
(`Binary.exists_round`).
-/

namespace SceneMarkup

open Float.Model (UnpackedFloat Format totalExponent)
open Float.Model.UnpackedFloat (Sign ExtendedMantissa decreaseExponent shiftToTargetExponent
  roundWithAccuracy)

namespace Binary

variable {c : Binary} {m n : Nat} {e : Int}

/-! ## Rounding -/

theorem mantissa_shiftRight (em : ExtendedMantissa) (n : Nat) :
    (em >>> n).mantissa = em.mantissa / 2 ^ n := by
  have hrepeat : em >>> n = n.repeat ExtendedMantissa.shiftRightOne em := rfl
  rw [hrepeat]
  clear hrepeat
  induction n with
  | zero => rw [Nat.repeat, Nat.pow_zero, Nat.div_one]
  | succ n ih =>
    rw [Nat.repeat, ExtendedMantissa.shiftRightOne, ih, Nat.div_div_eq_div_mul, Nat.pow_succ]

theorem roundedMantissa_bounds (em : ExtendedMantissa) :
    em.mantissa ≤ em.roundedMantissa ∧ em.roundedMantissa ≤ em.mantissa + 1 := by
  obtain ⟨k, roundBit, stickyBit⟩ := em
  cases roundBit with
  | false =>
    have hdown : (ExtendedMantissa.mk k false stickyBit).roundedMantissa = k := by
      cases stickyBit <;> rfl
    rw [hdown]
    exact ⟨le_rfl, Nat.le_succ k⟩
  | true =>
    cases stickyBit with
    | false =>
      have htie : (ExtendedMantissa.mk k true false).roundedMantissa = k + k % 2 := rfl
      rw [htie]
      simp only
      omega
    | true => exact ⟨Nat.le_succ k, le_rfl⟩

/-- The digits that are left by rounding are those of a float, also after a carry into a new one. -/
theorem exists_canonical_carry (hleast : leastExponent ≤ e) (hlow : 2 ^ 52 ≤ m)
    (hhigh : m ≤ 2 ^ 53) :
    ∃ c : Binary, c.IsCanonical ∧ 0 < c.significand ∧ e ≤ c.exponent ∧
      (m : ℚ) * 2 ^ e = c.absValue := by
  rcases hhigh.lt_or_eq with hlt | rfl
  · exact ⟨⟨false, m, e⟩, ⟨hlt, hleast, .inl hlow⟩, by simp only; omega, le_rfl, rfl⟩
  · refine ⟨⟨false, 2 ^ 52, e + 1⟩, ⟨by simp only; omega, by simp only; omega, .inl le_rfl⟩,
      by simp only; omega, by simp only; omega, ?_⟩
    rw [absValue, zpow_add_one₀ (by norm_num)]
    push_cast
    ring

theorem targetExponent_totalExponent (m : Nat) (e : Int) :
    Format.binary64.targetExponent (totalExponent m e) = max ((m.log2 : Int) + 1 + e - 53) (-1074) :=
  rfl

/-- Of more digits than a float has, the first ones are kept. -/
theorem exists_roundWithAccuracy (s : Sign) (hmany : 2 ^ 53 ≤ m) (hleast : leastExponent ≤ e) :
    ∃ (c : Binary) (_ : c.IsCanonical) (hpos : 0 < c.significand), e < c.exponent ∧
      roundWithAccuracy Format.binary64 s m e .exact = .finite s c.significand c.exponent hpos := by
  have hm : m ≠ 0 := by omega
  have hlog : 53 ≤ m.log2 := (Nat.le_log2 hm).mpr hmany
  obtain ⟨n, hn⟩ : ∃ n, m.log2 = 52 + n := ⟨m.log2 - 52, by omega⟩
  have htarget : Format.binary64.targetExponent (totalExponent m e) = e + n := by
    have hmax := targetExponent_totalExponent m e
    simp only [leastExponent] at hleast
    omega
  -- the digits that are kept begin with the leading one
  have hlow : 2 ^ 52 ≤ m / 2 ^ n := by
    rw [Nat.le_div_iff_mul_le (Nat.two_pow_pos n), ← Nat.pow_add, ← hn]
    exact Nat.log2_self_le hm
  have hhigh : m / 2 ^ n < 2 ^ 53 := by
    rw [Nat.div_lt_iff_lt_mul (Nat.two_pow_pos n), ← Nat.pow_add]
    have hlt : m < 2 ^ (m.log2 + 1) := Nat.lt_log2_self
    rwa [hn, show 52 + n + 1 = 53 + n by omega] at hlt
  have hshift : shiftToTargetExponent Format.binary64 m e .exact =
      (ExtendedMantissa.mk m false false >>> n, e + n) := by
    rw [shiftToTargetExponent, htarget]
    unfold Float.Model.UnpackedFloat.shiftToExponent
    dsimp only [ExtendedMantissa.ofMantissaAndAccuracy]
    rw [show (e + n - e).toNat = n by omega]
  have hkept := mantissa_shiftRight ⟨m, false, false⟩ n
  obtain ⟨hdown, hup⟩ := roundedMantissa_bounds (ExtendedMantissa.mk m false false >>> n)
  rw [hkept] at hdown hup
  obtain ⟨c, hc, hpos, hexponent, habs⟩ :=
    exists_canonical_carry (show leastExponent ≤ e + n by omega) (hlow.trans hdown)
      (hup.trans hhigh)
  refine ⟨c, hc, hpos, by omega, ?_⟩
  rw [roundWithAccuracy, hshift]
  dsimp only
  rw [shiftToTargetExponent_exact hc hpos habs hexponent]
  exact dif_neg hpos.ne'

/-- A magnitude that is not zero is rounded to one that is not, if it is a multiple of the smallest
float. -/
theorem exists_round (s : Sign) (hm : 0 < m) (hleast : leastExponent ≤ e) :
    ∃ (c : Binary) (_ : c.IsCanonical) (hpos : 0 < c.significand),
      Float.Model.UnpackedFloat.round Format.binary64 s m e =
        .finite s c.significand c.exponent hpos := by
  rcases Nat.lt_or_ge m (2 ^ 53) with hfew | hmany
  · obtain ⟨k, rfl⟩ : ∃ k : Nat, e = leastExponent + k := ⟨(e - leastExponent).toNat, by omega⟩
    obtain ⟨c, hc, -, -, habs⟩ := exists_canonical false k hfew
    have hpos : 0 < c.significand := by
      have hmagnitude : 0 < (Binary.mk false m (leastExponent + k)).absValue := absValue_pos hm
      exact absValue_pos_iff.mp (hmagnitude.trans_eq habs.symm)
    exact ⟨c, hc, hpos, round_exact s hc hpos hm habs.symm⟩
  · obtain ⟨c, hc, hpos, -, hround⟩ := exists_roundWithAccuracy s hmany hleast
    have hlog : 53 ≤ m.log2 := (Nat.le_log2 hm.ne').mpr hmany
    have htarget := targetExponent_totalExponent m e
    have hshift : (e - Format.binary64.targetExponent (totalExponent m e)).toNat = 0 := by omega
    refine ⟨c, hc, hpos, ?_⟩
    rw [Float.Model.UnpackedFloat.round]
    dsimp only [decreaseExponent]
    rw [hshift, Nat.shiftLeft_zero, Nat.cast_zero, sub_zero, hround]

/-! ## Subtraction -/

theorem value_ne_zero {b : Binary} (hpos : 0 < b.significand) : b.value ≠ 0 := by
  rw [← abs_pos, abs_value]
  exact absValue_pos hpos

/-- What an unpacked float is packed to is not zero; it may be no finite float. -/
def PacksNonzero (u : UnpackedFloat) : Prop :=
  ∀ b, ofUnpacked? (Float.Model.pack u).unpack = some b → b.value ≠ 0

theorem packsNonzero_of_standsFor {u : UnpackedFloat} {q : ℚ} (h : StandsFor u q) (hq : q ≠ 0) :
    PacksNonzero u := by
  obtain ⟨b, hb, hcanonical, hgreatest, rfl⟩ := h
  intro d hd
  rw [ofUnpacked?_pack hb hcanonical hgreatest, Option.some.injEq] at hd
  rwa [← hd]

theorem packsNonzero_round (s : Sign) (hm : 0 < m) (hleast : leastExponent ≤ e) :
    PacksNonzero (Float.Model.UnpackedFloat.round Format.binary64 s m e) := by
  obtain ⟨c, ⟨hlt, hcleast, hnormal⟩, hpos, hround⟩ := exists_round s hm hleast
  rw [hround]
  rcases Int.lt_or_le greatestExponent c.exponent with hgreat | hgreatest
  · intro b hb
    rw [ofUnpacked?_pack_of_lt s hpos hgreat] at hb
    cases hb
  · exact packsNonzero_of_standsFor
      ⟨⟨isNegative s, c.significand, c.exponent⟩, rfl, ⟨hlt, hcleast, hnormal⟩, hgreatest, rfl⟩
      (value_ne_zero hpos)

theorem packsNonzero_normalize {k : ℤ} (hk : k ≠ 0) (hleast : leastExponent ≤ e) :
    PacksNonzero (UnpackedFloat.normalize Format.binary64 k e .positive) := by
  obtain ⟨s, m, hm, rfl⟩ := exists_apply hk
  rw [normalize_apply s hm]
  exact packsNonzero_round s hm hleast

theorem packsNonzero_sub {u v : UnpackedFloat} {p q : ℚ} (hu : StandsFor u p) (hv : StandsFor v q)
    (hne : p ≠ q) : PacksNonzero (UnpackedFloat.sub Format.binary64 u v) := by
  obtain ⟨b, hb, hbcanonical, -, rfl⟩ := id hu
  obtain ⟨c, hc, hccanonical, -, rfl⟩ := id hv
  cases u with
  | infinity s => cases hb
  | notANumber => cases hb
  | zero s =>
    cases hb
    rw [value_zero] at hne
    cases v with
    | infinity t => cases hc
    | notANumber => cases hc
    | zero t =>
      cases hc
      exact absurd (value_zero _ _).symm hne
    | finite t n f hn =>
      exact packsNonzero_of_standsFor (standsFor_neg hv) (neg_ne_zero.mpr hne.symm)
  | finite s m e hm =>
    cases hb
    cases v with
    | infinity t => cases hc
    | notANumber => cases hc
    | zero t =>
      cases hc
      rw [value_zero] at hne
      exact packsNonzero_of_standsFor hu hne
    | finite t n f hn =>
      cases hc
      rw [value_mk, value_mk] at hne
      refine packsNonzero_normalize ?_ (le_min hbcanonical.least_le hccanonical.least_le)
      intro hzero
      rw [← apply_shiftLeft s m (min_le_left e f), ← apply_shiftLeft t n (min_le_right e f),
        sub_eq_zero.mp hzero] at hne
      exact hne rfl

end Binary

/-- **The difference of floats with different values is not zero**, however close they are. -/
theorem exactValue?_sub_ne_zero {x y : Float} {p q : ℚ} (hx : exactValue? x = some p)
    (hy : exactValue? y = some q) (hne : p ≠ q) : exactValue? (x - y) ≠ some 0 := by
  intro hzero
  obtain ⟨b, hb, hvalue⟩ := exactValue?_eq_some_iff.mp hzero
  rw [Binary.ofFloat?_eq, toModel_sub] at hb
  exact Binary.packsNonzero_sub (standsFor_of_exactValue? hx) (standsFor_of_exactValue? hy) hne b hb
    hvalue

end SceneMarkup
