import SceneMarkup.Proofs.Decimal.Grammar
import SceneMarkup.Proofs.Emit.Attributes
import SceneMarkup.Proofs.Text.Lossless

/-!
# How properties are written

A property with a name is written as the name, an equals sign and its value, in one of two forms
(`render_attribute`). In braces stands the expression of a boolean or numeric property that has one
(`HasExpression`): figures only, so nothing in it ends the value or the tag. All else stands in
quotes, escaped, and is read back as the literal text of the value.
-/

namespace SceneMarkup

open Json (Value)

/-! ## Expressions -/

/-- A text that is a boolean, or spells a numeral whose float is finite. -/
def IsExpressionText (text : List Char) : Prop :=
  text = "true".toList ∨ text = "false".toList ∨
    ∃ n : Numeral, n.Spells text ∧ n.toFloat.isFinite = true

theorem readsAsExpression_iff {text : List Char} :
    readsAsExpression text = true ↔ IsExpressionText text := by
  rw [IsExpressionText, ← exists_finite_floatOfText_iff, readsAsExpression, Bool.or_eq_true,
    Bool.or_eq_true, beq_iff_eq, beq_iff_eq, or_assoc]
  refine or_congr Iff.rfl (or_congr Iff.rfl ?_)
  cases floatOfText? text <;> simp

instance (text : List Char) : Decidable (IsExpressionText text) :=
  decidable_of_iff _ readsAsExpression_iff

/-- The expression of a value: the JSON text of a boolean or a number, and a string without the
blanks around it if that is an expression. -/
inductive HasExpression : Value → String → Prop where
  | bool (b : Bool) : HasExpression (.bool b) (Value.bool b).compact
  | integer (n : Int) : HasExpression (.integer n) (Value.integer n).compact
  | float (x : Float) : HasExpression (.float x) (Value.float x).compact
  | string {s : String} (h : IsExpressionText (Unicode.trim s.toList)) :
      HasExpression (.string s) (String.ofList (Unicode.trim s.toList))

theorem expression?_eq_some_iff {v : Value} {e : String} :
    expression? v = some e ↔ HasExpression v e := by
  constructor
  · intro h
    cases v with
    | null => cases h
    | bool b => cases h; exact .bool b
    | integer n => cases h; exact .integer n
    | float x => cases h; exact .float x
    | string s =>
      simp only [expression?, Option.ite_none_right_eq_some, Option.some.injEq] at h
      obtain ⟨hreads, rfl⟩ := h
      exact .string (readsAsExpression_iff.mp hreads)
    | array items => cases h
    | object members => cases h
  · intro h
    cases h with
    | bool b => rfl
    | integer n => rfl
    | float x => rfl
    | string hreads => exact if_pos (readsAsExpression_iff.mpr hreads)

/-- The kinds of properties that are written as expressions if their values have one. -/
def PropertyKind.IsComputed (kind : PropertyKind) : Prop := kind = .boolean ∨ kind = .number

instance (kind : PropertyKind) : Decidable kind.IsComputed := inferInstanceAs (Decidable (_ ∨ _))

namespace Property

theorem attributeValue_of_hasExpression {p : Property} {e : String} (hkind : p.kind.IsComputed)
    (h : HasExpression p.value e) : p.attributeValue = .expression e := by
  have hvalue := expression?_eq_some_iff.mpr h
  unfold attributeValue
  rcases hkind with hkind | hkind <;> rw [hkind] <;> simp only [hvalue]

theorem attributeValue_of_not_hasExpression {p : Property}
    (h : ¬ (p.kind.IsComputed ∧ ∃ e, HasExpression p.value e)) :
    p.attributeValue = .quoted (literalText p.value) := by
  have hvalue (hkind : p.kind.IsComputed) : expression? p.value = none := by
    rw [Option.eq_none_iff_forall_ne_some]
    exact fun e he => h ⟨hkind, e, expression?_eq_some_iff.mp he⟩
  unfold attributeValue
  split
  · rename_i hkind
    simp only [hvalue (.inl hkind)]
  · rename_i hkind
    simp only [hvalue (.inr hkind)]
  · rfl
  · rfl

end Property

theorem literalText_of_ne {v : Value} (hstring : ∀ s, v ≠ .string s) (hnull : v ≠ .null) :
    literalText v = v.compact := by
  cases v with
  | null => exact absurd rfl hnull
  | string s => exact absurd rfl (hstring s)
  | bool | integer | float | array | object => rfl

/-! ## Characters of expressions -/

def isHarmless (c : Char) : Bool :=
  !(Unicode.isBlank c || ['\x7b', '\x7d', '"', '\'', '<', '>', '&'].contains c)

theorem toNat_of_isFigure {c : Char} (h : isFigure c = true) :
    0x2B ≤ c.toNat ∧ c.toNat ≤ 0x7A := by
  -- capitals, small letters, digits and three signs, by their code points
  have hranges : isFigure c =
      (decide (65 ≤ c.val ∧ c.val ≤ 90) || decide (97 ≤ c.val) && decide (c.val ≤ 122) ||
        decide (48 ≤ c.val) && decide (c.val ≤ 57) || c == '.' || c == '-' || c == '+') := rfl
  simp only [hranges, Bool.or_eq_true, Bool.and_eq_true, decide_eq_true_eq, beq_iff_eq,
    UInt32.le_iff_toNat_le] at h
  rcases h with (((((⟨hlow, hhigh⟩ | ⟨hlow, hhigh⟩) | ⟨hlow, hhigh⟩) | rfl) | rfl) | rfl)
  · exact ⟨Nat.le_trans (by decide) hlow, Nat.le_trans hhigh (by decide)⟩
  · exact ⟨Nat.le_trans (by decide) hlow, Nat.le_trans hhigh (by decide)⟩
  · exact ⟨Nat.le_trans (by decide) hlow, Nat.le_trans hhigh (by decide)⟩
  · decide
  · decide
  · decide

theorem isHarmless_of_isFigure {c : Char} (h : isFigure c = true) : isHarmless c = true := by
  obtain ⟨hlow, hhigh⟩ := toNat_of_isFigure h
  have hblank : Unicode.isBlank c = false := by
    rw [Bool.eq_false_iff]
    intro hblank
    obtain ⟨r, hr, hmin, hmax⟩ := Unicode.exists_blankRange hblank
    have hapart : ∀ r ∈ Unicode.blankRanges, r.2 < 0x2B ∨ 0x7A < r.1 := by decide
    have := hapart r hr
    omega
  have hmark : c ∉ ['\x7b', '\x7d', '"', '\'', '<', '>', '&'] := by
    intro hmem
    have hnone : ['\x7b', '\x7d', '"', '\'', '<', '>', '&'].all (!isFigure ·) = true := by decide
    simpa [h] using List.all_eq_true.mp hnone c hmem
  simp [isHarmless, hblank, hmark]

/-! ## Attributes -/

/-- **A property is written completely, and nothing in its value ends it early**: as an expression of
harmless characters if it is boolean or numeric and its value has one, and else in quotes, as a text
without quotes that is read back as the string itself, as nothing for null, and as the JSON text of
any other value. -/
theorem render_attribute {key : String} (hname : propName key ≠ "") (p : Property) :
    ∃ a, p.attribute? key = some a ∧
      ((∃ e, a.render = propName key ++ "=\x7b" ++ e ++ "\x7d" ∧
          (∀ c ∈ e.toList, isHarmless c = true) ∧ p.kind.IsComputed ∧ HasExpression p.value e) ∨
        ∃ q, a.render = propName key ++ "=\"" ++ q ++ "\"" ∧ '"' ∉ q.toList ∧
          (∀ s, p.value = .string s →
            EntityTable.quotedValue.decode q.toList = some s.toList) ∧
          (p.value = .null → EntityTable.quotedValue.decode q.toList = some []) ∧
          ((∀ s, p.value ≠ .string s) → p.value ≠ .null →
            EntityTable.quotedValue.decode q.toList = some p.value.compact.toList) ∧
          ¬ (p.kind.IsComputed ∧ ∃ e, HasExpression p.value e)) := by
  refine ⟨⟨propName key, p.attributeValue⟩, by rw [Property.attribute?, if_neg hname], ?_⟩
  by_cases h : p.kind.IsComputed ∧ ∃ e, HasExpression p.value e
  · obtain ⟨hkind, e, he⟩ := h
    have hvalue := Property.attributeValue_of_hasExpression hkind he
    refine .inl ⟨e, ?_, fun c hc => ?_, hkind, he⟩
    · rw [hvalue]
      rfl
    · exact isHarmless_of_isFigure (Property.figures_attributeValue hvalue c hc)
  · have hlossless := EntityTable.isLossless_quotedValue
    have hdecode := hlossless.decode_escape (literalText p.value)
    refine .inr ⟨EntityTable.quotedValue.escape (literalText p.value), ?_, ?_, fun s hs => ?_,
      fun hnull => ?_, fun hstring hnull => ?_, h⟩
    · rw [Property.attributeValue_of_not_hasExpression h]
      rfl
    · exact hlossless.not_mem_escape _ '"' (.head _)
    · rw [hdecode, hs, literalText]
    · rw [hdecode, hnull]
      rfl
    · rw [hdecode, literalText_of_ne hstring hnull]

/-- A string with blanks around a numeral, without digits before its point; and three values that
stand in quotes: a string that holds some, null, and an object. -/
theorem render_attribute_point :
    (∃ a, (Property.mk .number (.string " +.5e3\n")).attribute? "Max Width#1:2" = some a ∧
      a.render = "maxWidth=\x7b+.5e3\x7d") ∧
    (∃ a q, (Property.mk .text (.string "say \"hi\"")).attribute? "Label" = some a ∧
      a.render = "label=\"" ++ q ++ "\"" ∧ '"' ∉ q.toList ∧
      EntityTable.quotedValue.decode q.toList = some "say \"hi\"".toList) ∧
    (∃ a q, (Property.mk .boolean .null).attribute? "Label" = some a ∧
      a.render = "label=\"" ++ q ++ "\"" ∧ EntityTable.quotedValue.decode q.toList = some []) ∧
    ∃ a q, (Property.mk .number (.object [("a", .integer 1)])).attribute? "Label" = some a ∧
      a.render = "label=\"" ++ q ++ "\"" ∧ '"' ∉ q.toList ∧
      EntityTable.quotedValue.decode q.toList = some "\x7b\"a\":1\x7d".toList := by
  have hlabel : propName "Label" = "label" := by decide +kernel
  have hne : propName "Label" ≠ "" := by rw [hlabel]; decide
  have hopened : propName "Label" ++ "=\"" = "label=\"" := by rw [hlabel]; decide
  refine ⟨?_, ?_, ?_, ?_⟩
  · obtain ⟨a, ha, hform⟩ := @render_attribute "Max Width#1:2" (by decide +kernel)
      ⟨.number, .string " +.5e3\n"⟩
    have hexpression : HasExpression (.string " +.5e3\n") "+.5e3" := .string (by decide +kernel)
    refine ⟨a, ha, ?_⟩
    rcases hform with ⟨e, hrender, -, -, he⟩ | ⟨q, -, -, -, -, -, hnone⟩
    · have htext : propName "Max Width#1:2" = "maxWidth" := by decide +kernel
      rw [hrender, htext]
      cases he
      decide +kernel
    · exact absurd ⟨.inr rfl, "+.5e3", hexpression⟩ hnone
  · obtain ⟨a, ha, ⟨e, -, -, hkind, -⟩ | ⟨q, hrender, hquotes, hstring, -⟩⟩ :=
      render_attribute hne ⟨.text, .string "say \"hi\""⟩
    · exact absurd hkind (by decide)
    · exact ⟨a, q, ha, by rw [hrender, hopened], hquotes, hstring _ rfl⟩
  · obtain ⟨a, ha, ⟨e, -, -, -, he⟩ | ⟨q, hrender, -, -, hnull, -⟩⟩ :=
      render_attribute hne ⟨.boolean, .null⟩
    · cases he
    · exact ⟨a, q, ha, by rw [hrender, hopened], hnull rfl⟩
  · obtain ⟨a, ha, ⟨e, -, -, -, he⟩ | ⟨q, hrender, hquotes, -, -, hjson, -⟩⟩ :=
      render_attribute hne ⟨.number, .object [("a", .integer 1)]⟩
    · cases he
    · refine ⟨a, q, ha, by rw [hrender, hopened], hquotes, (hjson nofun nofun).trans ?_⟩
      decide +kernel

end SceneMarkup
