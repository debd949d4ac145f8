import SceneMarkup.Json.Number
import SceneMarkup.Proofs.Decimal.Nearest

/-!
# The texts of numbers

A number is spelled (`NumberText.Spelled`) by an optional minus sign, digits without a zero in front,
and an optional fraction and exponent with at least one digit each. Scanning finds the number that a
text spells (`exists_scanNumber_spelled`). Integers of 64 bits are written as what spells them, and
finite floats as what spells some number (`spelled_int`, `exists_spelled_float`); which float is read
from that is another question.
-/

namespace SceneMarkup.Json

open Numeral (SignText splitSign)

namespace NumberText

/-! ## The grammar -/

inductive FractionSpelled : List Char → List Char → Prop where
  | none : FractionSpelled [] []
  | point {digits : List Char} (hne : digits ≠ []) (hdigits : digits.all Char.isDigit = true) :
      FractionSpelled digits ('.' :: digits)

inductive ExponentSpelled : Option (Bool × List Char) → List Char → Prop where
  | none : ExponentSpelled none []
  | some {mark : Char} {negative : Bool} {sign digits : List Char} (hmark : mark = 'e' ∨ mark = 'E')
      (hsign : SignText negative sign) (hne : digits ≠ [])
      (hdigits : digits.all Char.isDigit = true) :
      ExponentSpelled (some (negative, digits)) (mark :: (sign ++ digits))

inductive Spelled : NumberText → List Char → Prop where
  | mk (negative : Bool) {whole fraction point tail : List Char}
      {exponent : Option (Bool × List Char)} (hwhole : WholeLiteral whole)
      (hfraction : FractionSpelled fraction point) (hexponent : ExponentSpelled exponent tail) :
      Spelled ⟨negative, whole, fraction, exponent⟩
        ((if negative then "-" else "").toList ++ (whole ++ (point ++ tail)))

end NumberText

open NumberText (FractionSpelled ExponentSpelled Spelled)

def EndsNumber (rest : List Char) : Prop :=
  ∀ c ∈ rest.head?, c.isDigit = false ∧ c ≠ '.' ∧ c ≠ 'e' ∧ c ≠ 'E'

/-! ## Scanning -/

theorem someDigits_append {digits rest : List Char} (hne : digits ≠ [])
    (hdigits : digits.all Char.isDigit = true) (hrest : ∀ c ∈ rest.head?, c.isDigit = false)
    (p : Position) (go : List Char → Cursor → NumberScan) :
    Cursor.someDigits ⟨p, digits ++ rest⟩ go = go digits ⟨p.pastAll digits, rest⟩ := by
  unfold Cursor.someDigits Cursor.digits
  simp only [Numeral.takeWhile_digits hdigits hrest, Numeral.dropWhile_digits hdigits hrest]
  cases digits with
  | nil => exact absurd rfl hne
  | cons d digits => rfl

theorem NumberText.ExponentSpelled.head_append {exponent : Option (Bool × List Char)} {tail rest : List Char}
    (h : ExponentSpelled exponent tail) (hrest : EndsNumber rest) :
    ∀ c ∈ (tail ++ rest).head?, c.isDigit = false ∧ c ≠ '.' := by
  cases h with
  | none => exact fun c hc => ⟨(hrest c hc).1, (hrest c hc).2.1⟩
  | some hmark =>
    rintro c ⟨⟩
    rcases hmark with rfl | rfl <;> decide

theorem NumberText.FractionSpelled.head_append {fraction point rest : List Char}
    (h : FractionSpelled fraction point) (hrest : ∀ c ∈ rest.head?, c.isDigit = false) :
    ∀ c ∈ (point ++ rest).head?, c.isDigit = false := by
  cases h with
  | none => exact hrest
  | point =>
    rintro c ⟨⟩
    decide

section

variable {whole fraction point tail rest : List Char} {exponent : Option (Bool × List Char)}

theorem exists_exponent_spelled (hexponent : ExponentSpelled exponent tail)
    (hrest : EndsNumber rest) (negative : Bool) (p : Position) :
    ∃ q, NumberScan.exponent negative whole fraction ⟨p, tail ++ rest⟩ =
      .number ⟨negative, whole, fraction, exponent⟩ ⟨q, rest⟩ := by
  cases hexponent with
  | none =>
    refine ⟨p, ?_⟩
    cases rest with
    | nil => rfl
    | cons c rest =>
      have hmark : (c == 'e' || c == 'E') = false := by simpa using (hrest c rfl).2.2
      simp [NumberScan.exponent, hmark]
  | some hmark hsign hne hdigits =>
    rename_i mark below sign digits
    have hdigit : ∀ c ∈ rest.head?, c.isDigit = false := fun c hc => (hrest c hc).1
    have hbegins : Numeral.BeginsUnsigned (digits ++ rest) := by
      rw [Numeral.BeginsUnsigned, List.head?_append_of_ne_nil _ hne]
      exact Numeral.beginsUnsigned_digits hdigits
    have hmark' : (mark == 'e' || mark == 'E') = true := by simpa using hmark
    simp only [NumberScan.exponent, List.cons_append, List.append_assoc, hmark', if_true,
      Numeral.splitSign_append hsign hbegins, someDigits_append hne hdigits hdigit]
    exact ⟨_, rfl⟩

theorem exists_fraction_spelled (hfraction : FractionSpelled fraction point)
    (hexponent : ExponentSpelled exponent tail) (hrest : EndsNumber rest) (negative : Bool)
    (p : Position) :
    ∃ q, NumberScan.fraction negative whole ⟨p, point ++ (tail ++ rest)⟩ =
      .number ⟨negative, whole, fraction, exponent⟩ ⟨q, rest⟩ := by
  have hhead := hexponent.head_append hrest
  cases hfraction with
  | none =>
    rw [List.nil_append, NumberScan.fraction]
    split
    · rename_i heq
      exact absurd rfl (hhead '.' (by rw [show tail ++ rest = _ from heq]; rfl)).2
    · exact exists_exponent_spelled hexponent hrest negative p
  | point hne hdigits =>
    rw [List.cons_append, NumberScan.fraction]
    simp only [someDigits_append hne hdigits fun c hc => (hhead c hc).1]
    exact exists_exponent_spelled hexponent hrest negative _

theorem exists_whole_spelled (hwhole : WholeLiteral whole)
    (hfraction : FractionSpelled fraction point) (hexponent : ExponentSpelled exponent tail)
    (hrest : EndsNumber rest) (negative : Bool) (p : Position) :
    ∃ q, NumberScan.whole negative ⟨p, whole ++ (point ++ (tail ++ rest))⟩ =
      .number ⟨negative, whole, fraction, exponent⟩ ⟨q, rest⟩ := by
  have hhead := hfraction.head_append fun c hc => (hexponent.head_append hrest c hc).1
  have hnext (p : Position) :
      ∃ q, NumberScan.fraction negative whole ⟨p, point ++ (tail ++ rest)⟩ =
        .number ⟨negative, whole, fraction, exponent⟩ ⟨q, rest⟩ :=
    exists_fraction_spelled hfraction hexponent hrest negative p
  cases hwhole with
  | zero =>
    rw [List.singleton_append, NumberScan.whole]
    generalize point ++ (tail ++ rest) = after at hhead hnext
    cases after with
    | nil => exact hnext p.next
    | cons d after =>
      simp only [hhead d rfl, Bool.false_eq_true, if_false]
      exact hnext p.next
  | positive hd hne hdigits =>
    rename_i d digits
    have hall : (d :: digits).all Char.isDigit = true := by
      rw [List.all_cons, hd, hdigits, Bool.and_self]
    rw [NumberScan.whole]
    split
    · rename_i heq
      exact absurd (List.cons.inj heq).1 hne
    · rw [someDigits_append (List.cons_ne_nil d digits) hall hhead]
      exact hnext _

end

theorem exists_eq_cons_of_wholeLiteral {whole : List Char} (h : WholeLiteral whole) :
    ∃ d digits, whole = d :: digits ∧ d.isDigit = true := by
  cases h with
  | zero => exact ⟨'0', [], rfl, rfl⟩
  | positive hd => exact ⟨_, _, rfl, hd⟩

/-- **Scanning finds the number that a text spells**, if nothing goes on with it. -/
theorem exists_scanNumber_spelled {t : NumberText} {text rest : List Char} (h : t.Spelled text)
    (hrest : EndsNumber rest) (p : Position) :
    ∃ q, scanNumber ⟨p, text ++ rest⟩ = .number t ⟨q, rest⟩ := by
  cases h with
  | mk negative hwhole hfraction hexponent =>
    rename_i whole fraction point tail exponent
    have hnext (p : Position) := exists_whole_spelled hwhole hfraction hexponent hrest negative p
    cases negative with
    | true =>
      simp only [if_true, List.append_assoc]
      exact hnext p.next
    | false =>
      obtain ⟨d, digits, hcons, hd⟩ := exists_eq_cons_of_wholeLiteral hwhole
      simp only [Bool.false_eq_true, if_false, String.toList_empty, List.nil_append,
        List.append_assoc, scanNumber]
      split
      · rename_i heq
        rw [hcons] at heq
        rw [(List.cons.inj heq).1] at hd
        cases hd
      · exact hnext p

theorem NumberText.Spelled.unique {t u : NumberText} {text : List Char} (ht : t.Spelled text)
    (hu : u.Spelled text) : t = u := by
  have hnil : EndsNumber [] := nofun
  obtain ⟨q, hq⟩ := exists_scanNumber_spelled ht hnil .start
  obtain ⟨q', hq'⟩ := exists_scanNumber_spelled hu hnil .start
  rw [hq] at hq'
  cases hq'
  rfl

theorem NumberText.Spelled.exists_eq_cons {t : NumberText} {text : List Char} (h : t.Spelled text) :
    ∃ c rest, text = c :: rest ∧ (c = '-' ∨ c.isDigit = true) := by
  cases h with
  | mk negative hwhole hfraction hexponent =>
    cases negative with
    | true => exact ⟨'-', _, rfl, .inl rfl⟩
    | false =>
      obtain ⟨d, digits, rfl, hd⟩ := exists_eq_cons_of_wholeLiteral hwhole
      exact ⟨d, _, rfl, .inr hd⟩

theorem NumberText.value_eq_ok_iff {t : NumberText} {v : Value} (p q : Position) :
    t.value p = .ok v ↔ t.value q = .ok v := by
  unfold NumberText.value
  cases t.integer? with
  | some n => exact .rfl
  | none =>
    cases t.float with
    | ok x => exact .rfl
    | error n => exact iff_of_false nofun nofun

/-! ## Written numbers -/

/-- The integers that a text can hold: those of 64 bits, with or without a sign. -/
def FitsWord (n : Int) : Prop := -9223372036854775808 ≤ n ∧ n ≤ maxSignificand

def NumberText.ofInt (n : Int) : NumberText := ⟨decide (n < 0), n.natAbs.repr.toList, [], none⟩

theorem spelled_int (n : Int) : (NumberText.ofInt n).Spelled (toString n).toList := by
  have h := Spelled.mk (decide (n < 0)) (wholeLiteral_repr n.natAbs) .none .none
  rcases n with m | m
  · have hpos : ¬ ((m : Int) < 0) := by omega
    simpa [toString, Int.repr, NumberText.ofInt, hpos] using h
  · have hneg : decide (Int.negSucc m < 0) = true := by simp
    simpa [toString, Int.repr, NumberText.ofInt, hneg] using h

theorem integer?_ofInt {n : Int} (h : FitsWord n) : (NumberText.ofInt n).integer? = some n := by
  obtain ⟨hleast, hgreatest⟩ := h
  unfold NumberText.integer? NumberText.ofInt
  simp only [Decimal.ofDigits_repr, List.isEmpty_nil, Bool.not_true, Option.isSome_none,
    Bool.or_self, Bool.false_eq_true, if_false, decide_eq_true_eq, Bool.and_eq_true]
  by_cases hneg : n < 0
  · rw [if_pos hneg, if_pos (by omega)]
    congr 1
    omega
  · rw [if_neg hneg, if_pos (by omega)]
    congr 1
    omega

theorem fractionSpelled_drop {digits : List Char} (h : digits.all Char.isDigit = true) {n : Nat}
    (hn : n < digits.length) : FractionSpelled (digits.drop n) ('.' :: digits.drop n) := by
  refine .point ?_ (List.all_eq_true.mpr fun c hc =>
    List.all_eq_true.mp h c (List.mem_of_mem_drop hc))
  rw [← List.length_pos_iff, List.length_drop]
  omega

theorem exists_spelled_of_eq (negative : Bool) {whole fraction point tail text : List Char}
    {exponent : Option (Bool × List Char)} (hwhole : WholeLiteral whole)
    (hfraction : FractionSpelled fraction point) (hexponent : ExponentSpelled exponent tail)
    (htext : text = (if negative then "-" else "").toList ++ (whole ++ (point ++ tail))) :
    ∃ t : NumberText, t.Spelled text := by
  rw [htext]
  exact ⟨_, .mk negative hwhole hfraction hexponent⟩

theorem exists_spelled_plainText {d : Decimal} (hzero : d.digits = 0 → d.exponent ≤ 0)
    (negative : Bool) :
    ∃ t : NumberText,
      t.Spelled ((if negative then "-" else "").toList ++ (d.plainText true).toList) := by
  unfold Decimal.plainText
  by_cases hexponent : 0 ≤ d.exponent
  · have hwhole : WholeLiteral (d.digits.repr.toList ++ List.replicate d.exponent.toNat '0') := by
      by_cases h : d.digits = 0
      · have hnone : d.exponent.toNat = 0 := by have := hzero h; omega
        rw [hnone, List.replicate_zero, List.append_nil]
        exact wholeLiteral_repr _
      · exact wholeLiteral_repr_append h (Decimal.all_isDigit_zeros _)
    have hpoint : FractionSpelled ['0'] ['.', '0'] := .point (List.cons_ne_nil _ _) rfl
    rw [if_pos hexponent]
    exact exists_spelled_of_eq negative hwhole hpoint .none (by simp)
  · have hplaces : 0 < (-d.exponent).toNat := by omega
    have hwhole := Decimal.wholeLiteral_take_paddedDigits d.digits hplaces
    have hlong := Decimal.lt_length_paddedDigits d.digits (-d.exponent).toNat
    have hall := Decimal.all_isDigit_paddedDigits d.digits (-d.exponent).toNat
    have hpoint := fractionSpelled_drop hall
      (show (Decimal.paddedDigits d.digits (-d.exponent).toNat).length - (-d.exponent).toNat <
        (Decimal.paddedDigits d.digits (-d.exponent).toNat).length by omega)
    rw [if_neg hexponent]
    exact exists_spelled_of_eq negative hwhole hpoint .none (by simp [Decimal.paddedDigits])

theorem exponentSpelled_int (e : Int) :
    ExponentSpelled (some (decide (e < 0), e.natAbs.repr.toList))
      ('e' :: ((if e < 0 then "-" else "+").toList ++ e.natAbs.repr.toList)) := by
  have hne : e.natAbs.repr.toList ≠ [] := (wholeLiteral_repr _).ne_nil
  have hdigits := Decimal.all_isDigit_repr e.natAbs
  by_cases h : e < 0
  · rw [if_pos h, decide_eq_true h]
    exact .some (.inl rfl) .minus hne hdigits
  · rw [if_neg h, decide_eq_false h]
    exact .some (.inl rfl) .plus hne hdigits

theorem exists_spelled_scientificText (d : Decimal) (negative : Bool) :
    ∃ t : NumberText,
      t.Spelled ((if negative then "-" else "").toList ++ d.scientificText.toList) := by
  have hliteral := wholeLiteral_repr d.digits
  have hall := Decimal.all_isDigit_repr d.digits
  have hexponent := exponentSpelled_int d.leadExponent
  unfold Decimal.scientificText
  simp only [String.toList_append]
  generalize d.digits.repr.toList = text at hliteral hall
  rcases text with _ | ⟨c, _ | ⟨c', rest⟩⟩
  · exact absurd rfl hliteral.ne_nil
  · exact exists_spelled_of_eq negative hliteral .none hexponent (by simp [Char.toString])
  · rw [List.all_cons, Bool.and_eq_true] at hall
    have hfirst : WholeLiteral [c] := by
      by_cases hc : c = '0'
      · rw [hc]
        exact .zero
      · exact .positive hall.1 hc rfl
    have hpoint : FractionSpelled (c' :: rest) ('.' :: c' :: rest) :=
      .point (List.cons_ne_nil _ _) hall.2
    exact exists_spelled_of_eq negative hfirst hpoint hexponent (by simp [Char.toString])

theorem exists_spelled_text {d : Decimal} (hzero : d.digits = 0 → d.exponent ≤ 0)
    (negative : Bool) :
    ∃ t : NumberText,
      t.Spelled ((if negative then "-" else "").toList ++ (d.text Layout.json).toList) := by
  unfold Decimal.text
  by_cases hplain : Layout.json.isPlain d.leadExponent = true
  · rw [if_pos hplain]
    exact exists_spelled_plainText hzero negative
  · rw [if_neg hplain]
    exact exists_spelled_scientificText d negative

/-- **A finite float is written as what spells a number.** -/
theorem exists_spelled_float {x : Float} (hx : x.isFinite = true) :
    ∃ t : NumberText, t.Spelled (Layout.json.text x).toList := by
  obtain ⟨b, hb⟩ := Binary.isFinite_iff.mp hx
  rw [Layout.text, hb]
  simp only [String.toList_append]
  refine exists_spelled_text ?_ b.negative
  by_cases hzero : b.isZero = true
  · rw [if_pos hzero]
    exact fun _ => Int.le_refl 0
  · rw [if_neg hzero]
    have hpos : b.significand ≠ 0 := by simpa [Binary.isZero] using hzero
    have hcanonical := Binary.isCanonical_of_ofFloat? hb
    exact fun hnone =>
      absurd hnone (Decimal.dropZeros_ne_zero 20 (b.isNearest_shortest hcanonical hpos _).2)

end SceneMarkup.Json
