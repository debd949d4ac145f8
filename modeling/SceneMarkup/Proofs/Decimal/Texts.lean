import SceneMarkup.Proofs.Decimal.Differences

/-!
# Different floats have different texts

Two floats that are not zero are the same if their values are (`eq_of_exactValue?`), as only one
pair of digits and exponent is canonical. No number has two nearest floats, or there would be a
third one between them (`Binary.IsNearest.absValue_eq`). A float is written as a number that it is
nearest to, so that its text is not the one of another float (`Layout.text_inj`).
-/

namespace SceneMarkup

namespace Binary

variable {b c : Binary} {q : ℚ}

theorem parts_eq_of_absValue_eq (hb : b.IsCanonical) (hc : c.IsCanonical)
    (h : b.absValue = c.absValue) : b.significand = c.significand ∧ b.exponent = c.exponent := by
  have heq := (compares_absValue hb hc).eq_eq.mpr h
  rw [Ordering.then_eq_eq, compare_eq_iff_eq, compare_eq_iff_eq] at heq
  exact ⟨heq.2, heq.1⟩

theorem isCanonical_succ (hb : b.IsCanonical) (heven : b.significand % 2 = 0) :
    (Binary.mk b.negative (b.significand + 1) b.exponent).IsCanonical where
  significand_lt := by
    have := hb.significand_lt
    simp only
    omega
  least_le := hb.least_le
  normal := hb.normal.imp_left fun hle => Nat.le_succ_of_le hle

theorem absValue_succ (b : Binary) :
    (Binary.mk b.negative (b.significand + 1) b.exponent).absValue =
      b.absValue + 2 ^ b.exponent := by
  rw [absValue, absValue]
  push_cast
  ring

theorem IsNearest.le_absValue (hb : b.IsCanonical) (hc : c.IsCanonical) (hqb : b.IsNearest q)
    (hqc : c.IsNearest q) : c.absValue ≤ b.absValue := by
  by_contra hgt
  have hlt : b.absValue < c.absValue := not_le.mp hgt
  have htie : |q - b.absValue| = |q - c.absValue| := le_antisymm (hqb.le c hc) (hqc.le b hb)
  -- both significands are even, so the float after the lower one lies between the two
  have hbeven := hqb.even_of_tie c hc hlt.ne' htie
  have hceven := hqc.even_of_tie b hb hlt.ne htie.symm
  have hsucc := isCanonical_succ hb hbeven
  have hnext := absValue_succ b
  have hunit : (0 : ℚ) < 2 ^ b.exponent := zpow_pos (by norm_num) _
  rcases (gap_above hb hc hlt).lt_or_eq with hbelow | hequal
  · have hfar := hqb.le _ hsucc
    have hmid : q - b.absValue = c.absValue - q := by
      rcases abs_eq_abs.mp htie with heq | heq
      · linarith
      · linarith
    rw [hnext] at hfar
    rw [abs_of_pos (show 0 < q - b.absValue by linarith)] at hfar
    have hnear : |q - (b.absValue + 2 ^ b.exponent)| < q - b.absValue :=
      abs_lt.mpr ⟨by linarith, by linarith⟩
    linarith
  · rw [← hnext] at hequal
    have hparts := (parts_eq_of_absValue_eq hsucc hc hequal).1
    simp only at hparts
    omega

theorem IsNearest.absValue_eq (hb : b.IsCanonical) (hc : c.IsCanonical) (hqb : b.IsNearest q)
    (hqc : c.IsNearest q) : b.absValue = c.absValue :=
  le_antisymm (IsNearest.le_absValue hc hb hqc hqb) (IsNearest.le_absValue hb hc hqb hqc)

/-- The bits of a float, from its parts: the digits go on into the exponent. -/
theorem toNat_toBits {x : Float} (h : ofFloat? x = some b) :
    x.toBits.toNat = (if b.negative then 1 else 0) * 2 ^ 63 +
      (if b.significand < 2 ^ 52 then b.significand
        else (b.exponent + 1074).toNat * 2 ^ 52 + b.significand) := by
  have hlt : x.toBits.toNat < 2 ^ 64 := x.toBits.toNat_lt
  unfold ofFloat? at h
  generalize x.toBits.toNat = bits at h hlt
  simp only [Nat.pow_eq] at h
  have hsign : (if (bits / 2 ^ 63 == 1) = true then 1 else 0) = bits / 2 ^ 63 := by
    simp only [beq_iff_eq]
    split
    · omega
    · omega
  split at h
  · cases h
  · split at h
    · cases h
      simp only [hsign]
      rw [if_pos (by omega)]
      omega
    · cases h
      simp only [hsign]
      rw [if_neg (by omega)]
      omega

theorem ofFloat?_inj {x y : Float} (hx : ofFloat? x = some b) (hy : ofFloat? y = some b) :
    x = y := by
  have hbits : x.toModel.toBits = y.toModel.toBits :=
    UInt64.toNat_inj.mp ((toNat_toBits hx).trans (toNat_toBits hy).symm)
  obtain ⟨⟨xbits, hxvalid⟩⟩ := x
  obtain ⟨⟨ybits, hyvalid⟩⟩ := y
  cases hbits
  rfl

end Binary

section

variable {x y : Float} {p q : ℚ}

theorem eq_of_absValue_eq {b c : Binary} (hx : Binary.ofFloat? x = some b)
    (hy : Binary.ofFloat? y = some c) (hsign : b.negative = c.negative)
    (habs : b.absValue = c.absValue) : x = y := by
  obtain ⟨hsignificand, hexponent⟩ := Binary.parts_eq_of_absValue_eq
    (Binary.isCanonical_of_ofFloat? hx) (Binary.isCanonical_of_ofFloat? hy) habs
  have hparts : b = c := by
    cases b
    cases c
    simp only at hsign hsignificand hexponent
    rw [hsign, hsignificand, hexponent]
  rw [← hparts] at hy
  exact Binary.ofFloat?_inj hx hy

/-- **Only zero is the value of two floats.** -/
theorem eq_of_exactValue? (hx : exactValue? x = some p) (hy : exactValue? y = some p)
    (hp : p ≠ 0) : x = y := by
  obtain ⟨b, hb, rfl⟩ := exactValue?_eq_some_iff.mp hx
  obtain ⟨c, hc, hvalue⟩ := exactValue?_eq_some_iff.mp hy
  have hpos : 0 < b.significand := by
    rw [← abs_pos, Binary.abs_value] at hp
    exact Binary.absValue_pos_iff.mp hp
  have habs : b.absValue = c.absValue := by
    rw [← Binary.abs_value, ← Binary.abs_value, hvalue]
  exact eq_of_absValue_eq hb hc (Binary.negative_eq_of_value hpos hvalue.symm) habs

/-- **Two finite floats with the same text are the same**, in every layout. -/
theorem Layout.text_inj (layout : Layout) (hx : x.isFinite = true) (hy : y.isFinite = true)
    (h : layout.text x = layout.text y) : x = y := by
  obtain ⟨b, hb⟩ := Binary.isFinite_iff.mp hx
  obtain ⟨c, hc⟩ := Binary.isFinite_iff.mp hy
  obtain ⟨xtext, p, hxtext, hxliteral, hxnearest⟩ := layout.exists_decimalLiteral_text hb
  obtain ⟨ytext, q, hytext, hyliteral, hynearest⟩ := layout.exists_decimalLiteral_text hc
  rw [h, hytext] at hxtext
  have hxdecimal := hxliteral.decimalText
  have hydecimal := hyliteral.decimalText
  obtain ⟨hsign, rfl⟩ := Numeral.sign_append_inj (Numeral.signText_minus c.negative)
    (Numeral.signText_minus b.negative) hydecimal.beginsUnsigned hxdecimal.beginsUnsigned hxtext
  have hnumber : p = q := hxdecimal.unique hydecimal
  rw [← hnumber] at hynearest
  exact eq_of_absValue_eq hb hc hsign.symm (hxnearest.absValue_eq
    (Binary.isCanonical_of_ofFloat? hb) (Binary.isCanonical_of_ofFloat? hc) hynearest)

end

end SceneMarkup
