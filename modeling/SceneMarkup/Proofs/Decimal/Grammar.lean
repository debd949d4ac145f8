import SceneMarkup.Decimal.Numeral

/-!
# The grammar of numerals

A numeral is spelled (`Numeral.Spells`) by an optional sign, digits, an optional point with digits
after it, and an optional exponent; there is a digit before the exponent, and one in it. Reading
finds the numeral that a text spells, and there is at most one (`ofText?_eq_some_iff`). A text reads
as a finite float if and only if it spells a numeral whose float is finite
(`exists_finite_floatOfText_iff`): the words for other floats read as no finite one.
-/

namespace SceneMarkup

namespace Numeral

inductive SignText : Bool → List Char → Prop where
  | none : SignText false []
  | plus : SignText false ['+']
  | minus : SignText true ['-']

/-- The digits after the point, and the text that they stand in. -/
inductive FractionText : List Char → List Char → Prop where
  | none : FractionText [] []
  | point {digits : List Char} (hdigits : digits.all Char.isDigit = true) :
      FractionText digits ('.' :: digits)

inductive ExponentText : Int → List Char → Prop where
  | none : ExponentText 0 []
  | some {mark : Char} {negative : Bool} {sign digits : List Char} (hmark : mark = 'e' ∨ mark = 'E')
      (hsign : SignText negative sign) (hne : digits ≠ [])
      (hdigits : digits.all Char.isDigit = true) :
      ExponentText (if negative then -(exponentOfDigits digits : Int) else exponentOfDigits digits)
        (mark :: (sign ++ digits))

inductive UnsignedText : Numeral → List Char → Prop where
  | mk {negative : Bool} {whole fraction point tail : List Char} {exponent : Int}
      (hwhole : whole.all Char.isDigit = true) (hfraction : FractionText fraction point)
      (hne : whole ≠ [] ∨ fraction ≠ []) (hexponent : ExponentText exponent tail) :
      UnsignedText ⟨negative, whole, fraction, exponent⟩ (whole ++ (point ++ tail))

inductive Spells : Numeral → List Char → Prop where
  | mk {n : Numeral} {sign rest : List Char} (hsign : SignText n.negative sign)
      (hrest : UnsignedText n rest) : Spells n (sign ++ rest)

/-! ## The parts of a text -/

def splitFraction : List Char → List Char × List Char
  | '.' :: tail => (tail.takeWhile Char.isDigit, tail.dropWhile Char.isDigit)
  | text => ([], text)

/-- The exponent that a text ends in; zero if there is no text. -/
def lastExponent? : List Char → Option Int
  | [] => some 0
  | c :: tail => if c = 'e' ∨ c = 'E' then exponent? tail else none

theorem map_lastExponent? (negative : Bool) (whole fraction rest : List Char) :
    (match rest with
      | [] => some ⟨negative, whole, fraction, 0⟩
      | c :: tail =>
        if c == 'e' || c == 'E' then (exponent? tail).map (⟨negative, whole, fraction, ·⟩)
        else none) =
      (lastExponent? rest).map fun exponent => Numeral.mk negative whole fraction exponent := by
  cases rest with
  | nil => rfl
  | cons c tail =>
    simp only [lastExponent?, Bool.or_eq_true, beq_iff_eq]
    split <;> rfl

theorem ofUnsigned?_eq (negative : Bool) (text : List Char) :
    ofUnsigned? negative text =
      if text.takeWhile Char.isDigit = [] ∧
          (splitFraction (text.dropWhile Char.isDigit)).1 = [] then none
      else (lastExponent? (splitFraction (text.dropWhile Char.isDigit)).2).map fun exponent =>
        ⟨negative, text.takeWhile Char.isDigit, (splitFraction (text.dropWhile Char.isDigit)).1,
          exponent⟩ := by
  unfold ofUnsigned? splitFraction
  generalize text.dropWhile Char.isDigit = after
  split <;> simp only [Bool.and_eq_true, List.isEmpty_iff] <;> congr 1 <;>
    exact map_lastExponent? ..

theorem exists_signText (text : List Char) :
    ∃ sign, SignText (splitSign text).1 sign ∧ text = sign ++ (splitSign text).2 := by
  unfold splitSign
  split
  · exact ⟨_, .minus, rfl⟩
  · exact ⟨_, .plus, rfl⟩
  · exact ⟨_, .none, rfl⟩

theorem signText_minus (negative : Bool) :
    SignText negative (if negative then "-" else "").toList := by
  cases negative with
  | false => exact .none
  | true => exact .minus

def BeginsUnsigned (text : List Char) : Prop := ∀ c ∈ text.head?, c.isDigit = true ∨ c = '.'

theorem splitSign_append {negative : Bool} {sign rest : List Char} (h : SignText negative sign)
    (hrest : BeginsUnsigned rest) : splitSign (sign ++ rest) = (negative, rest) := by
  cases h with
  | none =>
    rw [List.nil_append]
    unfold splitSign
    split
    · exact absurd (hrest '-' rfl) (by decide)
    · exact absurd (hrest '+' rfl) (by decide)
    · rfl
  | plus => rfl
  | minus => rfl

/-- The sign of a text, and what follows it, are settled by the text. -/
theorem sign_append_inj {negative negative' : Bool} {sign sign' text text' : List Char}
    (hsign : SignText negative sign) (hsign' : SignText negative' sign')
    (htext : BeginsUnsigned text) (htext' : BeginsUnsigned text')
    (heq : sign ++ text = sign' ++ text') : negative = negative' ∧ text = text' := by
  have hsplit := splitSign_append hsign htext
  rw [heq, splitSign_append hsign' htext'] at hsplit
  exact ⟨(Prod.mk.inj hsplit).1.symm, (Prod.mk.inj hsplit).2.symm⟩

section

variable {digits rest : List Char} (hdigits : digits.all Char.isDigit = true)
  (hrest : ∀ c ∈ rest.head?, c.isDigit = false)

include hdigits hrest

theorem takeWhile_digits : (digits ++ rest).takeWhile Char.isDigit = digits := by
  rw [List.takeWhile_append_of_pos (List.all_eq_true.mp hdigits)]
  cases rest with
  | nil => rw [List.takeWhile_nil, List.append_nil]
  | cons c rest => rw [List.takeWhile_cons_of_neg (by simp [hrest c rfl]), List.append_nil]

theorem dropWhile_digits : (digits ++ rest).dropWhile Char.isDigit = rest := by
  rw [List.dropWhile_append_of_pos (List.all_eq_true.mp hdigits)]
  cases rest with
  | nil => rfl
  | cons c rest => rw [List.dropWhile_cons_of_neg (by simp [hrest c rfl])]

end

theorem exists_fractionText (text : List Char) :
    ∃ point, FractionText (splitFraction text).1 point ∧ text = point ++ (splitFraction text).2 := by
  unfold splitFraction
  split
  · rename_i tail
    refine ⟨_, .point List.all_takeWhile, ?_⟩
    rw [List.cons_append, List.takeWhile_append_dropWhile]
  · exact ⟨[], .none, rfl⟩

theorem splitFraction_append {fraction point rest : List Char} (h : FractionText fraction point)
    (hrest : ∀ c ∈ rest.head?, c.isDigit = false ∧ c ≠ '.') :
    splitFraction (point ++ rest) = (fraction, rest) := by
  cases h with
  | none =>
    rw [List.nil_append]
    unfold splitFraction
    split
    · exact absurd rfl (hrest '.' rfl).2
    · rfl
  | point hdigits =>
    have hrest' : ∀ c ∈ rest.head?, c.isDigit = false := fun c hc => (hrest c hc).1
    rw [List.cons_append, splitFraction, takeWhile_digits hdigits hrest',
      dropWhile_digits hdigits hrest']

theorem beginsUnsigned_digits {digits : List Char} (h : digits.all Char.isDigit = true) :
    BeginsUnsigned digits := fun c hc => .inl (List.all_eq_true.mp h c (List.mem_of_head? hc))

theorem exponent?_eq_some_iff {text : List Char} {n : Int} :
    exponent? text = some n ↔ ∃ negative sign digits, SignText negative sign ∧ digits ≠ [] ∧
      digits.all Char.isDigit = true ∧ text = sign ++ digits ∧
      n = if negative then -(exponentOfDigits digits : Int) else exponentOfDigits digits := by
  constructor
  · intro h
    obtain ⟨sign, hsign, htext⟩ := exists_signText text
    simp only [exponent?, Option.ite_none_left_eq_some, Bool.or_eq_true, List.isEmpty_iff, not_or,
      Bool.not_eq_true', Bool.not_eq_false, Option.some.injEq] at h
    obtain ⟨⟨hne, hdigits⟩, rfl⟩ := h
    exact ⟨_, sign, _, hsign, hne, hdigits, htext, rfl⟩
  · rintro ⟨negative, sign, digits, hsign, hne, hdigits, rfl, rfl⟩
    simp [exponent?, splitSign_append hsign (beginsUnsigned_digits hdigits), hne, hdigits]

theorem lastExponent?_eq_some_iff {text : List Char} {n : Int} :
    lastExponent? text = some n ↔ ExponentText n text := by
  constructor
  · intro h
    cases text with
    | nil =>
      cases h
      exact .none
    | cons c tail =>
      simp only [lastExponent?, Option.ite_none_right_eq_some] at h
      obtain ⟨hmark, hexponent⟩ := h
      obtain ⟨_, sign, digits, hsign, hne, hdigits, rfl, rfl⟩ := exponent?_eq_some_iff.mp hexponent
      exact .some hmark hsign hne hdigits
  · intro h
    cases h with
    | none => rfl
    | some hmark hsign hne hdigits =>
      rw [lastExponent?, if_pos hmark, exponent?_eq_some_iff]
      exact ⟨_, _, _, hsign, hne, hdigits, rfl, rfl⟩

theorem ExponentText.head_ne {exponent : Int} {tail : List Char} (h : ExponentText exponent tail) :
    ∀ c ∈ tail.head?, c.isDigit = false ∧ c ≠ '.' := by
  cases h with
  | none => exact nofun
  | some hmark hsign hne hdigits =>
    rintro c ⟨⟩
    rcases hmark with rfl | rfl <;> decide

theorem FractionText.head_ne {fraction point tail : List Char} (h : FractionText fraction point)
    (htail : ∀ c ∈ tail.head?, c.isDigit = false ∧ c ≠ '.') :
    ∀ c ∈ (point ++ tail).head?, c.isDigit = false := by
  cases h with
  | none => exact fun c hc => (htail c hc).1
  | point hdigits =>
    rintro c ⟨⟩
    decide

/-! ## Reading -/

theorem ofUnsigned?_eq_some_iff {negative : Bool} {text : List Char} {n : Numeral} :
    ofUnsigned? negative text = some n ↔ n.negative = negative ∧ UnsignedText n text := by
  rw [ofUnsigned?_eq]
  constructor
  · intro h
    simp only [Option.ite_none_left_eq_some, Option.map_eq_some_iff] at h
    obtain ⟨hne, exponent, hexponent, rfl⟩ := h
    obtain ⟨point, hpoint, hafter⟩ := exists_fractionText (text.dropWhile Char.isDigit)
    have hspelled : UnsignedText ⟨negative, _, _, exponent⟩ _ :=
      .mk List.all_takeWhile hpoint (Decidable.not_and_iff_or_not.mp hne)
        (lastExponent?_eq_some_iff.mp hexponent)
    rw [← hafter, List.takeWhile_append_dropWhile] at hspelled
    exact ⟨rfl, hspelled⟩
  · rintro ⟨rfl, hspelled⟩
    obtain ⟨hwhole, hfraction, hne, hexponent⟩ := hspelled
    have hrest := hfraction.head_ne hexponent.head_ne
    rw [takeWhile_digits hwhole hrest, dropWhile_digits hwhole hrest,
      splitFraction_append hfraction hexponent.head_ne,
      if_neg (Decidable.not_and_iff_or_not.mpr hne), lastExponent?_eq_some_iff.mpr hexponent]
    rfl

theorem UnsignedText.exists_eq_cons {n : Numeral} {text : List Char} (h : UnsignedText n text) :
    ∃ c rest, text = c :: rest ∧ (c.isDigit = true ∨ c = '.') := by
  obtain ⟨hwhole, hfraction, hne, -⟩ := h
  rename_i whole fraction point tail exponent
  cases whole with
  | cons c whole => exact ⟨c, _, rfl, .inl (List.all_eq_true.mp hwhole c (.head _))⟩
  | nil =>
    cases hfraction with
    | none => simp at hne
    | point hdigits => exact ⟨'.', _, rfl, .inr rfl⟩

theorem UnsignedText.beginsUnsigned {n : Numeral} {text : List Char} (h : UnsignedText n text) :
    BeginsUnsigned text := by
  obtain ⟨c, rest, rfl, hc⟩ := h.exists_eq_cons
  rintro d ⟨⟩
  exact hc

/-- A text is read as the one numeral that it spells, if it spells one. -/
theorem ofText?_eq_some_iff {text : List Char} {n : Numeral} :
    ofText? text = some n ↔ Spells n text := by
  constructor
  · intro h
    obtain ⟨hnegative, hspelled⟩ := ofUnsigned?_eq_some_iff.mp h
    obtain ⟨sign, hsign, htext⟩ := exists_signText text
    rw [htext]
    exact .mk (hnegative ▸ hsign) hspelled
  · rintro ⟨hsign, hspelled⟩
    rw [ofText?, splitSign_append hsign hspelled.beginsUnsigned, ofUnsigned?_eq_some_iff]
    exact ⟨rfl, hspelled⟩

end Numeral

/-! ## Floats -/

theorem toLower_of_begins {c : Char} (h : c.isDigit = true ∨ c = '.') : c.toLower = c := by
  have hsmall : c.toNat < 65 := by
    rcases h with hdigit | rfl
    · simp only [Char.isDigit, Bool.and_eq_true, decide_eq_true_eq] at hdigit
      exact Nat.lt_of_le_of_lt (UInt32.le_iff_toNat_le.mp hdigit.2) (by decide)
    · decide
  unfold Char.toLower
  rw [dif_neg]
  rintro ⟨hupper, -⟩
  exact Nat.not_lt.mpr (UInt32.le_iff_toNat_le.mp hupper) hsmall

theorem Numeral.UnsignedText.ne_word {n : Numeral} {text : List Char} (h : n.UnsignedText text) :
    ∀ word ∈ ["inf", "infinity", "nan"], String.ofList (text.map Char.toLower) ≠ word := by
  obtain ⟨c, rest, rfl, hc⟩ := h.exists_eq_cons
  have hletter : ∀ word ∈ ["inf", "infinity", "nan"],
      word.toList.head?.all (fun d => !(d.isDigit || d == '.')) = true := by decide
  rintro word hword rfl
  have hfirst := hletter _ hword
  rw [String.toList_ofList, List.map_cons, toLower_of_begins hc, List.head?_cons,
    Option.all_some] at hfirst
  rcases hc with hdigit | rfl
  · simp [hdigit] at hfirst
  · cases hfirst

theorem floatOfText?_of_spells {n : Numeral} {text : List Char} (h : n.Spells text) :
    floatOfText? text = some n.toFloat := by
  obtain ⟨hsign, hspelled⟩ := h
  have hword := hspelled.ne_word
  have hread := Numeral.ofUnsigned?_eq_some_iff.mpr ⟨rfl, hspelled⟩
  simp only [List.forall_mem_cons, List.not_mem_nil, false_implies, implies_true, and_true] at hword
  simp [floatOfText?, Numeral.splitSign_append hsign hspelled.beginsUnsigned, hword, hread]

theorem not_isFinite_infinity (negative : Bool) :
    (if negative then -(1 / 0 : Float) else 1 / 0).isFinite = false := by
  cases negative <;> decide

/-- **A text is read as a finite float just if it spells a numeral** whose float is finite. -/
theorem exists_finite_floatOfText_iff {text : List Char} :
    (∃ x, floatOfText? text = some x ∧ x.isFinite = true) ↔
      ∃ n : Numeral, n.Spells text ∧ n.toFloat.isFinite = true := by
  constructor
  · rintro ⟨x, hread, hfinite⟩
    unfold floatOfText? at hread
    simp only at hread
    split at hread
    · cases hread
      rw [not_isFinite_infinity] at hfinite
      cases hfinite
    · split at hread
      · cases hread
        exact absurd hfinite (by decide)
      · obtain ⟨n, hn, rfl⟩ := Option.map_eq_some_iff.mp hread
        exact ⟨n, Numeral.ofText?_eq_some_iff.mp hn, hfinite⟩
  · rintro ⟨n, hspelled, hfinite⟩
    exact ⟨n.toFloat, floatOfText?_of_spells hspelled, hfinite⟩

end SceneMarkup
