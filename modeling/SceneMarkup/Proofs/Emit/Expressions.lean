import SceneMarkup.Proofs.Decimal.Nearest
import SceneMarkup.Proofs.Emit.PropertyText

/-!
# What expressions are evaluated to

An expression in braces is evaluated to a truth value or a number (`Evaluates`). If the expression
of a property is evaluated to anything, it is to what the value of the property stands for; it is
not evaluated at all just if the value is a string of a number with a zero in front of other digits
(`evaluates_iff_isEvaluable`). Such a string is copied as it is, and no decimal literal begins so.
-/

namespace SceneMarkup

open Json (Value)
open Numeral (SignText splitSign sign_append_inj)

/-! ## Evaluation -/

/-- A truth value, or a number with its sign. The number is exact: who computes with it takes the
float that is nearest to it. -/
inductive ExpressionValue where
  | truth (b : Bool)
  | number (negative : Bool) (magnitude : ℚ)

def truthWord (b : Bool) : List Char := if b then "true".toList else "false".toList

/-- An expression is the word for a truth value, or a decimal literal after an optional sign. -/
inductive Evaluates : List Char → ExpressionValue → Prop where
  | truth (b : Bool) : Evaluates (truthWord b) (.truth b)
  | number {negative : Bool} {sign text : List Char} {magnitude : ℚ}
      (hsign : SignText negative sign) (hliteral : DecimalLiteral text magnitude) :
      Evaluates (sign ++ text) (.number negative magnitude)

/-- What a value stands for. An integer is the number itself, a float any number that it is the
nearest float to, and a string what it says between blanks. -/
inductive Denotes : Value → ExpressionValue → Prop where
  | bool (b : Bool) : Denotes (.bool b) (.truth b)
  | integer (n : Int) : Denotes (.integer n) (.number (decide (n < 0)) n.natAbs)
  | float {x : Float} {b : Binary} {q : ℚ} (hx : Binary.ofFloat? x = some b) (hq : b.IsNearest q) :
      Denotes (.float x) (.number b.negative q)
  | word {s : String} {b : Bool} (htrim : Unicode.trim s.toList = truthWord b) :
      Denotes (.string s) (.truth b)
  | numeral {s : String} {negative : Bool} {sign text : List Char} {q : ℚ}
      (htrim : Unicode.trim s.toList = sign ++ text) (hsign : SignText negative sign)
      (htext : DecimalText text q) : Denotes (.string s) (.number negative q)

def IsPaddedSigned (text : List Char) : Prop :=
  ∃ negative sign digits, SignText negative sign ∧ text = sign ++ digits ∧ IsPadded digits

/-- The values whose expressions can be evaluated: no string of a padded number, and no float that
is no number, as none in a document is. -/
def Json.Value.IsEvaluable : Value → Prop
  | .float x => x.isFinite = true
  | .string s => ¬ IsPaddedSigned (Unicode.trim s.toList)
  | _ => True

/-! ## An expression has one value -/

theorem splitSign_truthWord (b : Bool) : splitSign (truthWord b) = (false, truthWord b) := by
  cases b <;> decide

theorem not_beginsUnsigned_truthWord (b : Bool) : ¬ Numeral.BeginsUnsigned (truthWord b) := by
  intro h
  cases b
  · exact absurd (h 'f' rfl) (by decide)
  · exact absurd (h 't' rfl) (by decide)

theorem ne_truthWord {negative : Bool} {sign text : List Char} (hsign : SignText negative sign)
    (htext : Numeral.BeginsUnsigned text) (b : Bool) : sign ++ text ≠ truthWord b := by
  intro heq
  have hsplit := Numeral.splitSign_append hsign htext
  rw [heq, splitSign_truthWord] at hsplit
  obtain ⟨-, rfl⟩ := Prod.mk.inj hsplit
  exact not_beginsUnsigned_truthWord b htext

theorem IsPadded.beginsUnsigned {text : List Char} (h : IsPadded text) :
    Numeral.BeginsUnsigned text := by
  obtain ⟨d, rest, -, rfl⟩ := h
  rintro c ⟨⟩
  exact .inl (by decide)

theorem isPaddedSigned_iff {text : List Char} :
    IsPaddedSigned text ↔ IsPadded (splitSign text).2 := by
  constructor
  · rintro ⟨negative, sign, digits, hsign, rfl, hpadded⟩
    rwa [Numeral.splitSign_append hsign hpadded.beginsUnsigned]
  · intro h
    obtain ⟨sign, hsign, htext⟩ := Numeral.exists_signText text
    exact ⟨_, sign, _, hsign, htext, h⟩

instance (text : List Char) : Decidable (IsPaddedSigned text) :=
  decidable_of_iff _ isPaddedSigned_iff.symm

theorem Evaluates.unique {text : List Char} {v w : ExpressionValue} (hv : Evaluates text v)
    (hw : Evaluates text w) : v = w := by
  cases hv with
  | truth b =>
    generalize heq : truthWord b = text at hw
    cases hw with
    | truth b' => cases b <;> cases b' <;> first | rfl | exact absurd heq (by decide)
    | number hsign hliteral =>
      exact absurd heq.symm (ne_truthWord hsign hliteral.decimalText.beginsUnsigned b)
  | number hsign hliteral =>
    rename_i sign text _
    have hbegins := hliteral.decimalText.beginsUnsigned
    generalize heq : sign ++ text = whole at hw
    cases hw with
    | truth b => exact absurd heq (ne_truthWord hsign hbegins b)
    | number hsign' hliteral' =>
      obtain ⟨rfl, rfl⟩ :=
        sign_append_inj hsign hsign' hbegins hliteral'.decimalText.beginsUnsigned heq
      rw [hliteral.decimalText.unique hliteral'.decimalText]

theorem Evaluates.not_isPaddedSigned {text : List Char} {v : ExpressionValue}
    (h : Evaluates text v) : ¬ IsPaddedSigned text := by
  rintro ⟨negative, sign, digits, hsign, heq, hpadded⟩
  cases h with
  | truth b => exact ne_truthWord hsign hpadded.beginsUnsigned b heq.symm
  | number hsign' hliteral =>
    obtain ⟨-, rfl⟩ :=
      sign_append_inj hsign' hsign hliteral.decimalText.beginsUnsigned hpadded.beginsUnsigned heq
    exact hliteral.not_isPadded hpadded

/-! ## The expressions of values -/

theorem evaluates_bool (b : Bool) : Evaluates (Value.bool b).compact.toList (.truth b) := by
  have hword : (Value.bool b).compact.toList = truthWord b := by
    rw [Value.compact]
    cases b <;> rfl
  rw [hword]
  exact .truth b

theorem evaluates_integer (n : Int) :
    Evaluates (Value.integer n).compact.toList (.number (decide (n < 0)) n.natAbs) := by
  rw [Value.compact, Int.toString_eq_repr, Int.repr_eq_if]
  by_cases h : n < 0
  · rw [if_neg (by omega), decide_eq_true h, show (-n).toNat = n.natAbs by omega,
      String.toList_append]
    exact .number .minus (decimalLiteral_repr _)
  · rw [if_pos (by omega), decide_eq_false h, show n.toNat = n.natAbs by omega]
    exact .number .none (decimalLiteral_repr _)

theorem exists_evaluates_float {x : Float} (h : x.isFinite = true) :
    ∃ w, Evaluates (Value.float x).compact.toList w ∧ Denotes (.float x) w := by
  obtain ⟨b, hb⟩ := Binary.isFinite_iff.mp h
  obtain ⟨text, q, htext, hliteral, hnearest⟩ := Layout.json.exists_decimalLiteral_text hb
  refine ⟨.number b.negative q, ?_, .float hb hnearest⟩
  rw [Value.compact, htext]
  exact .number (Numeral.signText_minus b.negative) hliteral

/-- The text of a float that is no number begins with a letter, after its sign if it has one. -/
theorem not_evaluates_of_not_isFinite {x : Float} (h : x.isFinite = false) (w : ExpressionValue) :
    ¬ Evaluates (Value.float x).compact.toList w := by
  have hnone : Binary.ofFloat? x = none := by
    rw [Option.eq_none_iff_forall_ne_some]
    intro b hb
    rw [Binary.isFinite_iff.mpr ⟨b, hb⟩] at h
    cases h
  have hletter (text : List Char) (htext : text ∈ ["NaN".toList, "-inf".toList, "inf".toList]) :
      ¬ Evaluates text w := by
    intro heval
    have hhead : ∀ text ∈ ["NaN".toList, "-inf".toList, "inf".toList],
        (splitSign text).2.head? = some 'N' ∨ (splitSign text).2.head? = some 'i' := by decide
    have hfirst := hhead text htext
    cases heval with
    | truth b =>
      rw [splitSign_truthWord] at hfirst
      cases b <;> exact absurd hfirst (by decide)
    | number hsign hliteral =>
      obtain ⟨c, rest, hcons, hc⟩ := hliteral.decimalText.exists_eq_cons
      rw [Numeral.splitSign_append hsign hliteral.decimalText.beginsUnsigned, hcons] at hfirst
      rcases hfirst with hfirst | hfirst <;> cases hfirst <;> exact absurd hc (by decide)
  rw [Value.compact, Layout.text, hnone]
  simp only
  split
  · exact hletter _ (by decide)
  · split
    · exact hletter _ (by decide)
    · exact hletter _ (by decide)

theorem exists_evaluates_string {s : String} (h : IsExpressionText (Unicode.trim s.toList))
    (hpadded : ¬ IsPaddedSigned (Unicode.trim s.toList)) :
    ∃ w, Evaluates (Unicode.trim s.toList) w ∧ Denotes (.string s) w := by
  generalize htrim : Unicode.trim s.toList = text at h hpadded
  rcases h with rfl | rfl | ⟨n, ⟨hsign, hspelled⟩, -⟩
  · exact ⟨_, .truth true, .word htrim⟩
  · exact ⟨_, .truth false, .word htrim⟩
  · obtain ⟨q, htext⟩ := DecimalText.exists_of_unsignedText hspelled
    have hliteral := decimalLiteral_iff.mpr
      ⟨htext, fun hpad => hpadded ⟨_, _, _, hsign, rfl, hpad⟩⟩
    exact ⟨_, .number hsign hliteral, .numeral htrim hsign htext⟩

theorem exists_evaluates {v : Value} {e : String} (h : HasExpression v e) (hv : v.IsEvaluable) :
    ∃ w, Evaluates e.toList w ∧ Denotes v w := by
  cases h with
  | bool b => exact ⟨_, evaluates_bool b, .bool b⟩
  | integer n => exact ⟨_, evaluates_integer n, .integer n⟩
  | float x => exact exists_evaluates_float hv
  | string h =>
    rw [String.toList_ofList]
    exact exists_evaluates_string h hv

theorem isEvaluable_of_evaluates {v : Value} {e : String} (h : HasExpression v e)
    {w : ExpressionValue} (hw : Evaluates e.toList w) : v.IsEvaluable := by
  cases h with
  | bool b => exact trivial
  | integer n => exact trivial
  | float x =>
    rw [Value.IsEvaluable, ← Bool.not_eq_false]
    exact fun h => not_evaluates_of_not_isFinite h w hw
  | string h =>
    rw [String.toList_ofList] at hw
    exact hw.not_isPaddedSigned

/-! ## Properties -/

theorem Property.hasExpression_of_attributeValue {p : Property} {e : String}
    (h : p.attributeValue = .expression e) : HasExpression p.value e := by
  by_cases hexists : p.kind.IsComputed ∧ ∃ e, HasExpression p.value e
  · obtain ⟨hkind, e', he'⟩ := hexists
    rw [attributeValue_of_hasExpression hkind he'] at h
    cases h
    exact he'
  · rw [attributeValue_of_not_hasExpression hexists] at h
    cases h

/-- **The expression of a property is evaluated to what its value stands for**, if it is evaluated
at all; and it is just if its value is no string of a padded number. -/
theorem evaluates_iff_isEvaluable {key name e : String} {p : Property}
    (h : p.attribute? key = some ⟨name, .expression e⟩) :
    ((∃ w, Evaluates e.toList w) ↔ p.value.IsEvaluable) ∧
      ∀ w, Evaluates e.toList w → Denotes p.value w := by
  have hvalue : HasExpression p.value e := by
    simp only [Property.attribute?, Option.ite_none_left_eq_some, Option.some.injEq,
      Attribute.mk.injEq] at h
    exact p.hasExpression_of_attributeValue h.2.2
  refine ⟨⟨?_, fun hv => ?_⟩, fun w hw => ?_⟩
  · rintro ⟨w, hw⟩
    exact isEvaluable_of_evaluates hvalue hw
  · obtain ⟨w, hw, -⟩ := exists_evaluates hvalue hv
    exact ⟨w, hw⟩
  · obtain ⟨w', hw', hdenotes⟩ := exists_evaluates hvalue (isEvaluable_of_evaluates hvalue hw)
    rwa [hw.unique hw']

/-- A number between blanks, with a zero in front of its point alone. -/
theorem evaluates_iff_isEvaluable_fraction :
    (Property.mk .number (.string " -0.50E3\n")).attribute? "Max Width#1:2" =
        some ⟨"maxWidth", .expression "-0.50E3"⟩ ∧
      ∃ w, Evaluates "-0.50E3".toList w ∧ Denotes (.string " -0.50E3\n") w := by
  have hattribute : (Property.mk .number (.string " -0.50E3\n")).attribute? "Max Width#1:2" =
      some ⟨"maxWidth", .expression "-0.50E3"⟩ := by decide +kernel
  obtain ⟨hevaluable, hdenotes⟩ := evaluates_iff_isEvaluable hattribute
  have hplain : ¬ IsPaddedSigned (Unicode.trim " -0.50E3\n".toList) := by decide +kernel
  obtain ⟨w, hw⟩ := hevaluable.mpr hplain
  exact ⟨hattribute, w, hw, hdenotes w hw⟩

/-- Zeros in front of a digit are copied, and what is written is evaluated to nothing. -/
theorem not_evaluates_padded :
    (Property.mk .number (.string "010")).attribute? "Count" = some ⟨"count", .expression "010"⟩ ∧
      ∀ w, ¬ Evaluates "010".toList w :=
  ⟨by decide +kernel, fun _ h => h.not_isPaddedSigned (by decide)⟩

end SceneMarkup
