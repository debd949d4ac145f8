import Mathlib.Tactic.NormNum
import SceneMarkup.Decimal.Layout
import SceneMarkup.Proofs.Decimal.Literal

/-!
# The numbers of written decimals

A decimal is written as a literal of its value in every layout (`Decimal.decimalLiteral_text`): no
layout loses a digit, moves the point or puts a zero in front. A natural is written as a literal of
itself.
-/

namespace SceneMarkup

def Decimal.value (d : Decimal) : ℚ := d.digits * 10 ^ d.exponent

theorem decimalValue_eq (whole fraction : List Char) (scale : Int) :
    decimalValue whole fraction scale =
      Decimal.ofDigits (whole ++ fraction) * 10 ^ (scale - fraction.length) := by
  rw [decimalValue, Decimal.ofDigits_append, zpow_sub₀ (by norm_num), zpow_natCast]
  push_cast
  field_simp

theorem wholeLiteral_repr (n : Nat) : WholeLiteral n.repr.toList := by
  have hdigits := Decimal.all_isDigit_repr n
  by_cases h : n = 0
  · subst h
    exact .zero
  · obtain ⟨c, rest, hrepr, hc⟩ := Decimal.exists_repr_eq_cons h
    rw [hrepr, List.all_cons, Bool.and_eq_true] at hdigits
    rw [hrepr]
    exact .positive hdigits.1 hc hdigits.2

theorem decimalLiteral_repr (n : Nat) : DecimalLiteral n.repr.toList n := by
  have hvalue : decimalValue n.repr.toList [] 0 = n := by
    rw [decimalValue_eq, List.append_nil, Decimal.ofDigits_repr]
    simp
  have h := DecimalLiteral.whole (wholeLiteral_repr n) .none
  rwa [hvalue, List.append_nil] at h

theorem wholeLiteral_repr_append {n : Nat} (h : n ≠ 0) {more : List Char}
    (hmore : more.all Char.isDigit = true) : WholeLiteral (n.repr.toList ++ more) := by
  obtain ⟨c, rest, hrepr, hc⟩ := Decimal.exists_repr_eq_cons h
  have hdigits := Decimal.all_isDigit_repr n
  rw [hrepr, List.all_cons, Bool.and_eq_true] at hdigits
  rw [hrepr, List.cons_append]
  exact .positive hdigits.1 hc (by rw [List.all_append, hdigits.2, hmore, Bool.and_self])

theorem scaleText_int (e : Int) :
    ScaleText e ('e' :: ((if e < 0 then "-" else "+").toList ++ e.natAbs.repr.toList)) := by
  have hne : e.natAbs.repr.toList ≠ [] := (wholeLiteral_repr _).ne_nil
  have hdigits := Decimal.all_isDigit_repr e.natAbs
  by_cases h : e < 0
  · have hscale := ScaleText.some (.inl rfl) .minus hne hdigits
    rw [Decimal.ofDigits_repr, if_pos rfl, show -(e.natAbs : Int) = e by omega] at hscale
    rwa [if_pos h]
  · have hscale := ScaleText.some (.inl rfl) .plus hne hdigits
    rw [Decimal.ofDigits_repr, if_neg (by decide), show (e.natAbs : Int) = e by omega] at hscale
    rwa [if_neg h]

namespace Decimal

/-! ## Positional texts -/

theorem decimalLiteral_zeros {d : Decimal} (hzero : d.digits = 0 → d.exponent ≤ 0)
    (hexponent : 0 ≤ d.exponent) {fraction point : List Char}
    (hpoint : Numeral.FractionText fraction point) (hfraction : ofDigits fraction = 0) :
    DecimalLiteral (d.digits.repr.toList ++ List.replicate d.exponent.toNat '0' ++ point)
      d.value := by
  have hwhole : WholeLiteral (d.digits.repr.toList ++ List.replicate d.exponent.toNat '0') := by
    by_cases h : d.digits = 0
    · have hnone : d.exponent.toNat = 0 := by have := hzero h; omega
      rw [hnone, List.replicate_zero, List.append_nil]
      exact wholeLiteral_repr _
    · exact wholeLiteral_repr_append h (all_isDigit_zeros _)
  have hvalue :
      decimalValue (d.digits.repr.toList ++ List.replicate d.exponent.toNat '0') fraction 0 =
        d.value := by
    obtain ⟨n, hn⟩ := Int.eq_ofNat_of_zero_le hexponent
    rw [decimalValue, hfraction, ofDigits_append, ofDigits_repr, ofDigits_zeros, value, hn]
    simp
  rw [← hvalue]
  cases hpoint with
  | none => exact .whole hwhole .none
  | point hdigits => simpa using DecimalLiteral.point hwhole hdigits .none

/-- The digits of a natural, with zeros in front if they would all stand after the point. -/
def paddedDigits (digits places : Nat) : List Char :=
  List.replicate (places + 1 - digits.repr.toList.length) '0' ++ digits.repr.toList

section

variable (digits places : Nat)

theorem lt_length_paddedDigits : places < (paddedDigits digits places).length := by
  simp only [paddedDigits, List.length_append, List.length_replicate]
  omega

theorem all_isDigit_paddedDigits : (paddedDigits digits places).all Char.isDigit = true := by
  rw [paddedDigits, List.all_append, all_isDigit_zeros, all_isDigit_repr, Bool.and_self]

theorem ofDigits_paddedDigits : ofDigits (paddedDigits digits places) = digits := by
  rw [paddedDigits, ofDigits_append, ofDigits_zeros, ofDigits_repr, Nat.zero_mul, Nat.zero_add]

end

/-- What stands before the point is a zero alone, or begins with the first digit. -/
theorem wholeLiteral_take_paddedDigits (digits : Nat) {places : Nat} (hplaces : 0 < places) :
    WholeLiteral ((paddedDigits digits places).take
      ((paddedDigits digits places).length - places)) := by
  have hlong := lt_length_paddedDigits digits places
  by_cases hshort : digits.repr.toList.length ≤ places
  · -- zeros fill up to the one before the point
    have htake : (paddedDigits digits places).length - places = 1 := by
      simp only [paddedDigits, List.length_append, List.length_replicate]
      omega
    obtain ⟨n, hn⟩ : ∃ n, places + 1 - digits.repr.toList.length = n + 1 :=
      Nat.exists_eq_add_one.mpr (by omega)
    rw [htake, paddedDigits, hn, List.replicate_succ, List.cons_append]
    exact .zero
  · have hpadded : paddedDigits digits places = digits.repr.toList := by
      rw [paddedDigits, show places + 1 - digits.repr.toList.length = 0 by omega,
        List.replicate_zero, List.nil_append]
    have hne : digits ≠ 0 := by
      rintro rfl
      exact hshort hplaces
    have hall := all_isDigit_repr digits
    obtain ⟨c, rest, hrepr, hc⟩ := exists_repr_eq_cons hne
    obtain ⟨n, hn⟩ : ∃ n, (paddedDigits digits places).length - places = n + 1 :=
      Nat.exists_eq_add_one.mpr (by omega)
    rw [hn, hpadded, hrepr, List.take_succ_cons]
    rw [hrepr, List.all_cons, Bool.and_eq_true, List.all_eq_true] at hall
    exact .positive hall.1 hc
      (List.all_eq_true.mpr fun x hx => hall.2 x (List.mem_of_mem_take hx))

theorem decimalLiteral_places (digits : Nat) {places : Nat} (hplaces : 0 < places) :
    let padded := paddedDigits digits places
    DecimalLiteral
      (padded.take (padded.length - places) ++ '.' :: padded.drop (padded.length - places))
      (digits * 10 ^ (-places : Int)) := by
  intro padded
  have hwhole : WholeLiteral (padded.take (padded.length - places)) :=
    wholeLiteral_take_paddedDigits digits hplaces
  have hfraction : (padded.drop (padded.length - places)).all Char.isDigit = true :=
    List.all_eq_true.mpr fun x hx =>
      List.all_eq_true.mp (all_isDigit_paddedDigits digits places) x (List.mem_of_mem_drop hx)
  have hvalue : decimalValue (padded.take (padded.length - places))
      (padded.drop (padded.length - places)) 0 = digits * 10 ^ (-places : Int) := by
    have hlength : (padded.drop (padded.length - places)).length = places := by
      have hlong : places < padded.length := lt_length_paddedDigits digits places
      rw [List.length_drop]
      omega
    rw [decimalValue_eq, List.take_append_drop, hlength, ofDigits_paddedDigits, zero_sub]
  rw [← hvalue]
  simpa using DecimalLiteral.point hwhole hfraction .none

/-- Without an exponent. A zero has none to be moved by. -/
theorem decimalLiteral_plainText {d : Decimal} (hzero : d.digits = 0 → d.exponent ≤ 0)
    (pointZero : Bool) : DecimalLiteral (d.plainText pointZero).toList d.value := by
  unfold plainText
  simp only
  split
  · rename_i hexponent
    rw [String.toList_append, String.toList_ofList]
    cases pointZero with
    | true =>
      have hpoint : Numeral.FractionText ['0'] ['.', '0'] := .point rfl
      exact decimalLiteral_zeros hzero hexponent hpoint rfl
    | false => exact decimalLiteral_zeros hzero hexponent .none rfl
  · rename_i hexponent
    have hplaces : 0 < (-d.exponent).toNat := by omega
    have h := decimalLiteral_places d.digits hplaces
    rw [show -(((-d.exponent).toNat : Nat) : Int) = d.exponent by omega] at h
    simpa [value, paddedDigits] using h

/-! ## Texts with an exponent -/

theorem decimalLiteral_scientificText (d : Decimal) :
    DecimalLiteral d.scientificText.toList d.value := by
  have hliteral := wholeLiteral_repr d.digits
  have hall := all_isDigit_repr d.digits
  have hdigits := ofDigits_repr d.digits
  have hscale := scaleText_int d.leadExponent
  have hlength : d.digits.repr.length = d.digits.repr.toList.length := String.length_toList.symm
  unfold scientificText
  simp only [String.toList_append]
  generalize d.digits.repr.toList = text at hliteral hall hdigits hlength
  rcases text with _ | ⟨c, _ | ⟨c', rest⟩⟩
  · exact absurd rfl hliteral.ne_nil
  · -- one digit alone
    have hvalue : decimalValue [c] [] d.leadExponent = d.value := by
      rw [decimalValue_eq, List.append_nil, hdigits, value, leadExponent, hlength]
      simp
    rw [← hvalue]
    simpa [Char.toString] using DecimalLiteral.whole hliteral hscale
  · have hfirst : WholeLiteral [c] := by
      rw [List.all_cons, Bool.and_eq_true] at hall
      by_cases hc : c = '0'
      · rw [hc]
        exact .zero
      · exact .positive hall.1 hc rfl
    have hrest : (c' :: rest).all Char.isDigit = true := by
      rw [List.all_cons, Bool.and_eq_true] at hall
      exact hall.2
    have hvalue : decimalValue [c] (c' :: rest) d.leadExponent = d.value := by
      rw [decimalValue_eq, List.singleton_append, hdigits, value, leadExponent, hlength]
      congr 2
      simp
    rw [← hvalue]
    simpa [Char.toString] using DecimalLiteral.point hfirst hrest hscale

/-- **A decimal is written as a literal of its value**, whatever the layout. -/
theorem decimalLiteral_text (layout : Layout) {d : Decimal}
    (hzero : d.digits = 0 → d.exponent ≤ 0) : DecimalLiteral (d.text layout).toList d.value := by
  unfold text
  split
  · exact decimalLiteral_plainText hzero _
  · exact decimalLiteral_scientificText d

end Decimal

end SceneMarkup
