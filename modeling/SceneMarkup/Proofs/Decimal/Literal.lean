import Mathlib.Algebra.Order.Field.Rat
import Mathlib.Tactic.FieldSimp
import SceneMarkup.Proofs.Decimal.Digits
import SceneMarkup.Proofs.Decimal.Grammar

/-!
# Decimal literals

The exact number that a text stands for (`DecimalText`), and the stricter spelling of numbers in an
expression language (`DecimalLiteral`), where no zero stands in front of other digits. A text stands
for one number at most (`DecimalText.unique`); one that stands for a number is a literal just if it
is not padded (`decimalLiteral_iff`), and then it is a literal of the same number.
-/

namespace SceneMarkup

open Numeral (SignText FractionText splitSign splitFraction)

/-! ## Numbers as they are written -/

/-- An exponent as it is written, however large; nothing stands for zero. -/
inductive ScaleText : Int → List Char → Prop where
  | none : ScaleText 0 []
  | some {mark : Char} {negative : Bool} {sign digits : List Char} (hmark : mark = 'e' ∨ mark = 'E')
      (hsign : SignText negative sign) (hne : digits ≠ [])
      (hdigits : digits.all Char.isDigit = true) :
      ScaleText (if negative then -(Decimal.ofDigits digits : Int) else Decimal.ofDigits digits)
        (mark :: (sign ++ digits))

def decimalValue (whole fraction : List Char) (scale : Int) : ℚ :=
  (Decimal.ofDigits whole + Decimal.ofDigits fraction / 10 ^ fraction.length) * 10 ^ scale

/-- A number without a sign as anyone writes it: digits on at least one side of an optional point,
and an optional exponent. -/
inductive DecimalText : List Char → ℚ → Prop where
  | mk {whole fraction point tail : List Char} {scale : Int}
      (hwhole : whole.all Char.isDigit = true) (hfraction : FractionText fraction point)
      (hne : whole ≠ [] ∨ fraction ≠ []) (hscale : ScaleText scale tail) :
      DecimalText (whole ++ (point ++ tail)) (decimalValue whole fraction scale)

/-! ## Literals -/

/-- The digits of a literal before its point: a zero alone, or digits that begin with no zero. -/
inductive WholeLiteral : List Char → Prop where
  | zero : WholeLiteral ['0']
  | positive {d : Char} {digits : List Char} (hd : d.isDigit = true) (hne : d ≠ '0')
      (hdigits : digits.all Char.isDigit = true) : WholeLiteral (d :: digits)

/-- A decimal literal and its number. A point may end the digits before it or begin those after it,
but cannot stand alone. -/
inductive DecimalLiteral : List Char → ℚ → Prop where
  | whole {whole tail : List Char} {scale : Int} (hwhole : WholeLiteral whole)
      (hscale : ScaleText scale tail) : DecimalLiteral (whole ++ tail) (decimalValue whole [] scale)
  | point {whole fraction tail : List Char} {scale : Int} (hwhole : WholeLiteral whole)
      (hfraction : fraction.all Char.isDigit = true) (hscale : ScaleText scale tail) :
      DecimalLiteral (whole ++ '.' :: (fraction ++ tail)) (decimalValue whole fraction scale)
  | fraction {fraction tail : List Char} {scale : Int} (hne : fraction ≠ [])
      (hfraction : fraction.all Char.isDigit = true) (hscale : ScaleText scale tail) :
      DecimalLiteral ('.' :: (fraction ++ tail)) (decimalValue [] fraction scale)

def IsPadded (text : List Char) : Prop := ∃ d rest, d.isDigit = true ∧ text = '0' :: d :: rest

theorem isPadded_iff {text : List Char} :
    IsPadded text ↔ text.head? = some '0' ∧ text.tail.head?.any Char.isDigit = true := by
  rcases text with _ | ⟨c, _ | ⟨d, rest⟩⟩
  · simp [IsPadded]
  · simp [IsPadded]
  · simp only [IsPadded, List.cons.injEq, List.head?_cons, Option.some.injEq, List.tail_cons,
      Option.any_some]
    constructor
    · rintro ⟨_, _, hd, rfl, rfl, rfl⟩
      exact ⟨rfl, hd⟩
    · rintro ⟨rfl, hd⟩
      exact ⟨d, rest, hd, rfl, rfl, rfl⟩

instance (text : List Char) : Decidable (IsPadded text) := decidable_of_iff _ isPadded_iff.symm

/-! ## One text, one number -/

theorem ScaleText.head_ne {scale : Int} {tail : List Char} (h : ScaleText scale tail) :
    ∀ c ∈ tail.head?, c.isDigit = false ∧ c ≠ '.' := by
  cases h with
  | none => exact nofun
  | some hmark hsign hne hdigits =>
    rintro c ⟨⟩
    rcases hmark with rfl | rfl <;> decide

def scaleOf : List Char → Int
  | [] => 0
  | _ :: tail =>
    let n : Int := Decimal.ofDigits (splitSign tail).2
    if (splitSign tail).1 then -n else n

theorem ScaleText.eq_scaleOf {scale : Int} {tail : List Char} (h : ScaleText scale tail) :
    scale = scaleOf tail := by
  cases h with
  | none => rfl
  | some hmark hsign hne hdigits =>
    simp only [scaleOf, Numeral.splitSign_append hsign (Numeral.beginsUnsigned_digits hdigits)]

def numberOf (text : List Char) : ℚ :=
  let (fraction, tail) := splitFraction (text.dropWhile Char.isDigit)
  decimalValue (text.takeWhile Char.isDigit) fraction (scaleOf tail)

namespace DecimalText

variable {text : List Char} {q r : ℚ}

theorem eq_numberOf (h : DecimalText text q) : q = numberOf text := by
  obtain ⟨hwhole, hfraction, -, hscale⟩ := h
  have hrest := hfraction.head_ne hscale.head_ne
  simp only [numberOf, Numeral.takeWhile_digits hwhole hrest, Numeral.dropWhile_digits hwhole hrest,
    Numeral.splitFraction_append hfraction hscale.head_ne, ← hscale.eq_scaleOf]

theorem unique (hq : DecimalText text q) (hr : DecimalText text r) : q = r :=
  hq.eq_numberOf.trans hr.eq_numberOf.symm

theorem exists_eq_cons (h : DecimalText text q) :
    ∃ c rest, text = c :: rest ∧ (c.isDigit = true ∨ c = '.') := by
  obtain ⟨hwhole, hfraction, hne, -⟩ := h
  rename_i whole fraction point tail scale
  cases whole with
  | cons c whole => exact ⟨c, _, rfl, .inl (List.all_eq_true.mp hwhole c (.head _))⟩
  | nil =>
    cases hfraction with
    | none => simp at hne
    | point hdigits => exact ⟨'.', _, rfl, .inr rfl⟩

theorem beginsUnsigned (h : DecimalText text q) : Numeral.BeginsUnsigned text := by
  obtain ⟨c, rest, rfl, hc⟩ := h.exists_eq_cons
  rintro d ⟨⟩
  exact hc

theorem exists_of_unsignedText {n : Numeral} (h : n.UnsignedText text) :
    ∃ q, DecimalText text q := by
  obtain ⟨hwhole, hfraction, hne, hexponent⟩ := h
  cases hexponent with
  | none => exact ⟨_, .mk hwhole hfraction hne .none⟩
  | some hmark hsign hdigits hall =>
    exact ⟨_, .mk hwhole hfraction hne (.some hmark hsign hdigits hall)⟩

end DecimalText

/-! ## Literals are the texts without padding -/

theorem WholeLiteral.all_isDigit {whole : List Char} (h : WholeLiteral whole) :
    whole.all Char.isDigit = true := by
  cases h with
  | zero => rfl
  | positive hd hne hdigits => rw [List.all_cons, hd, hdigits, Bool.and_self]

theorem WholeLiteral.ne_nil {whole : List Char} (h : WholeLiteral whole) : whole ≠ [] := by
  cases h <;> exact List.cons_ne_nil _ _

theorem WholeLiteral.not_isPadded {whole rest : List Char} (h : WholeLiteral whole)
    (hrest : ∀ c ∈ rest.head?, c.isDigit = false) : ¬ IsPadded (whole ++ rest) := by
  rintro ⟨d, tail, hd, heq⟩
  cases h with
  | zero =>
    obtain rfl : rest = d :: tail := by simpa using heq
    rw [hrest d rfl] at hd
    cases hd
  | positive _ hne _ => exact hne (List.cons.inj heq).1

/-- Digits that are not padded, whatever follows, are those of a literal. -/
theorem wholeLiteral_of_not_isPadded {whole rest : List Char}
    (hwhole : whole.all Char.isDigit = true) (hne : whole ≠ [])
    (h : ¬ IsPadded (whole ++ rest)) : WholeLiteral whole := by
  obtain ⟨d, digits, rfl⟩ := List.exists_cons_of_ne_nil hne
  rw [List.all_cons, Bool.and_eq_true] at hwhole
  by_cases hd : d = '0'
  · subst hd
    cases digits with
    | nil => exact .zero
    | cons c digits =>
      exact absurd ⟨c, digits ++ rest, List.all_eq_true.mp hwhole.2 c (.head _), rfl⟩ h
  · exact .positive hwhole.1 hd hwhole.2

namespace DecimalLiteral

variable {text : List Char} {q : ℚ}

theorem decimalText (h : DecimalLiteral text q) : DecimalText text q := by
  cases h with
  | whole hwhole hscale => exact .mk hwhole.all_isDigit .none (.inl hwhole.ne_nil) hscale
  | point hwhole hfraction hscale =>
    exact .mk hwhole.all_isDigit (.point hfraction) (.inl hwhole.ne_nil) hscale
  | fraction hne hfraction hscale =>
    have hwhole : ([] : List Char).all Char.isDigit = true := rfl
    exact .mk hwhole (.point hfraction) (.inr hne) hscale

theorem not_isPadded (h : DecimalLiteral text q) : ¬ IsPadded text := by
  cases h with
  | whole hwhole hscale => exact hwhole.not_isPadded fun c hc => (hscale.head_ne c hc).1
  | point hwhole hfraction hscale =>
    refine hwhole.not_isPadded ?_
    rintro c ⟨⟩
    decide
  | fraction hne hfraction hscale =>
    rintro ⟨d, rest, -, heq⟩
    exact absurd (List.cons.inj heq).1 (by decide)

end DecimalLiteral

/-- **A literal of a number is a text that stands for it without padding.** -/
theorem decimalLiteral_iff {text : List Char} {q : ℚ} :
    DecimalLiteral text q ↔ DecimalText text q ∧ ¬ IsPadded text := by
  constructor
  · exact fun h => ⟨h.decimalText, h.not_isPadded⟩
  · rintro ⟨⟨hwhole, hfraction, hne, hscale⟩, hpadded⟩
    rename_i whole fraction point tail scale
    by_cases hnil : whole = []
    · -- the point comes first, so that digits follow it
      subst hnil
      cases hfraction with
      | none => simp at hne
      | point hdigits => exact .fraction (by simpa using hne) hdigits hscale
    · have hliteral := wholeLiteral_of_not_isPadded hwhole hnil hpadded
      cases hfraction with
      | none => exact .whole hliteral hscale
      | point hdigits => exact .point hliteral hdigits hscale

end SceneMarkup
