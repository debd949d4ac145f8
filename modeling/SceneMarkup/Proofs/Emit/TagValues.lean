import SceneMarkup.Proofs.Emit.Elements

/-!
# Brackets in the values of a component tag

Values are written with their brackets, which the printer takes for those of tags. Where no name of
an attribute holds a bracket, a component tag is one line just if no value is cut
(`uncut_componentTag_iff`), and is taken for a tag that opens no element just if its values leave it
closed (`opensElement_componentTag_iff`): a closing tag begins in one of them, or the first `>` in
them, if there is one, follows a slash.
-/

namespace SceneMarkup.Markup

def writtenValues (attributes : List Attribute) : List (List Char) :=
  attributes.map fun a => a.value.inner.toList

/-- Values with which a tag is taken for one that opens nothing: a closing tag begins in one of
them, or the first `>` in them, if there is one, follows a slash. -/
def LeavesClosed (values : List (List Char)) : Prop :=
  (∃ value ∈ values, ['<', '/'] <:+: value) ∨
    ∀ value ∈ values.find? ('>' ∈ ·), (value.takeWhile (· != '>')).getLast? = some '/'

instance (values : List (List Char)) : Decidable (LeavesClosed values) :=
  inferInstanceAs (Decidable (_ ∨ _))

/-- Values that neither cut the line of the tag that they stand in nor have it taken for one that
opens an element. -/
structure KeepLine (values : List (List Char)) : Prop where
  uncut : ∀ value ∈ values, Uncut value
  closed : LeavesClosed values

instance (values : List (List Char)) : Decidable (KeepLine values) :=
  decidable_of_iff ((∀ value ∈ values, Uncut value) ∧ LeavesClosed values)
    ⟨fun h => ⟨h.1, h.2⟩, fun h => ⟨h.uncut, h.closed⟩⟩

variable {attributes : List Attribute} {a : Attribute} {c d : Char}

def IsBracketPair (c d : Char) : Prop := (c = '>' ∧ d = '<') ∨ (c = '<' ∧ d = '/')

/-! ## Pairs of brackets -/

theorem pair_between {before text after : List Char} (hbefore : c ∉ before)
    (hafter : ¬ [c, d] <:+: after) (hmeet : after.head? ≠ some d) :
    [c, d] <:+: before ++ (text ++ after) ↔ [c, d] <:+: text := by
  have hpart : ¬ [c, d] <:+: before := fun hpart => hbefore (hpart.subset (.head _))
  have hlast : before.getLast? ≠ some c := fun hlast => hbefore (List.mem_of_getLast? hlast)
  rw [pair_append_iff, pair_append_iff]
  simp [hpart, hlast, hafter, hmeet]

def valueStart (a : Attribute) : List Char :=
  ' ' :: (a.name.toList ++ ['=', a.value.delimiters.1])

theorem toList_blank_render (a : Attribute) :
    (" " ++ a.render).toList =
      valueStart a ++ (a.value.inner.toList ++ [a.value.delimiters.2]) := by
  rw [String.toList_append, Attribute.toList_render, valueStart]
  simp

theorem unbracketed_valueStart (h : Unbracketed a.name.toList) : Unbracketed (valueStart a) := by
  have hblank : Unbracketed [' '] := by decide
  have hdelimiter : Unbracketed ['=', a.value.delimiters.1] := by
    cases a.value <;> simp [AttributeValue.delimiters, Unbracketed]
  exact hblank.append (h.append hdelimiter)

theorem opening_ne (value : AttributeValue) :
    value.delimiters.1 ≠ '>' ∧ value.delimiters.1 ≠ '/' := by
  cases value <;> simp [AttributeValue.delimiters]

theorem closing_ne (value : AttributeValue) :
    value.delimiters.2 ≠ '<' ∧ value.delimiters.2 ≠ '>' ∧ value.delimiters.2 ≠ '/' := by
  cases value <;> simp [AttributeValue.delimiters]

theorem pair_attribute_iff (h : IsBracketPair c d) (hname : Unbracketed a.name.toList) :
    [c, d] <:+: (" " ++ a.render).toList ↔ [c, d] <:+: a.value.inner.toList := by
  have hstart := unbracketed_valueStart hname
  obtain ⟨hopening, hclosing, hslash⟩ := closing_ne a.value
  have hshort : ¬ [c, d] <:+: [a.value.delimiters.2] := fun hpart =>
    absurd hpart.length_le (by simp)
  rw [toList_blank_render]
  rcases h with ⟨rfl, rfl⟩ | ⟨rfl, rfl⟩
  · exact pair_between hstart.2 hshort (by simpa using hopening)
  · exact pair_between hstart.1 hshort (by simpa using hslash)

theorem pair_attributeText_iff (h : IsBracketPair c d)
    (hnames : ∀ a ∈ attributes, Unbracketed a.name.toList) :
    [c, d] <:+: attributeText attributes ↔
      ∃ value ∈ writtenValues attributes, [c, d] <:+: value := by
  induction attributes with
  | nil => simp [attributeText, writtenValues]
  | cons a rest ih =>
    obtain ⟨ha, hrest⟩ := List.forall_mem_cons.mp hnames
    have hmeet : ¬ ((" " ++ a.render).toList.getLast? = some c ∧
        (attributeText rest).head? = some d) := by
      obtain ⟨hopening, hclosing, -⟩ := closing_ne a.value
      rw [toList_blank_render, ← List.append_assoc, List.getLast?_concat]
      rintro ⟨hlast, -⟩
      rcases h with ⟨rfl, -⟩ | ⟨rfl, -⟩
      · exact hclosing (Option.some.inj hlast)
      · exact hopening (Option.some.inj hlast)
    rw [attributeText_cons, pair_append_iff, pair_attribute_iff h ha, ih hrest,
      iff_false_intro hmeet, or_false]
    simp [writtenValues]

variable {name : String} (hname : ∀ c ∈ name.toList, c.isAlphanum = true)
  (hnames : ∀ a ∈ attributes, Unbracketed a.name.toList)

include hname hnames

theorem pair_inside_iff (h : IsBracketPair c d) :
    [c, d] <:+: name.toList ++ attributeText attributes ++ [' ', '/'] ++ ['>'] ↔
      ∃ value ∈ writtenValues attributes, [c, d] <:+: value := by
  have hbefore := unbracketed_of_isAlphanum hname
  rw [← pair_attributeText_iff h hnames, List.append_assoc, List.append_assoc]
  rcases h with ⟨rfl, rfl⟩ | ⟨rfl, rfl⟩
  · exact pair_between hbefore.2 (by decide) (by decide)
  · exact pair_between hbefore.1 (by decide) (by decide)

theorem uncut_componentTag_iff :
    Uncut (componentTag name attributes).toList ↔
      ∀ value ∈ writtenValues attributes, Uncut value := by
  have hinside := pair_inside_iff hname hnames (.inl ⟨rfl, rfl⟩)
  rw [toList_componentTag, uncut_cons_iff, Uncut, hinside]
  simp [Uncut]

omit hname in
theorem not_mem_attributeText (h : ∀ value ∈ writtenValues attributes, '>' ∉ value) :
    '>' ∉ attributeText attributes := by
  induction attributes with
  | nil => exact List.not_mem_nil
  | cons a rest ih =>
    obtain ⟨ha, hrest⟩ := List.forall_mem_cons.mp hnames
    obtain ⟨hvalue, hvalues⟩ := List.forall_mem_cons.mp h
    obtain ⟨-, hclosing, -⟩ := closing_ne a.value
    rw [attributeText_cons, toList_blank_render]
    simp [(unbracketed_valueStart ha).2, hvalue, hclosing.symm, ih hrest hvalues]

omit hname in
/-- The first `>` in the attributes stands in the first value that holds one, after the quote or the
brace before the value or after what the value holds before it. -/
theorem exists_attributeText_eq {value : List Char}
    (hfind : (writtenValues attributes).find? ('>' ∈ ·) = some value) :
    ∃ before c after, attributeText attributes =
        ' ' :: (before ++ c :: (value.takeWhile (· != '>') ++ '>' :: after)) ∧
      '>' ∉ before ∧ c ≠ '>' ∧ c ≠ '/' := by
  induction attributes with
  | nil => cases hfind
  | cons a rest ih =>
    obtain ⟨ha, hrest⟩ := List.forall_mem_cons.mp hnames
    have hstart := unbracketed_valueStart ha
    rw [writtenValues, List.map_cons] at hfind
    rw [attributeText_cons, toList_blank_render]
    by_cases hmem : '>' ∈ a.value.inner.toList
    · rw [List.find?_cons_of_pos (by simpa using hmem)] at hfind
      cases hfind
      obtain ⟨hopening, hslash⟩ := opening_ne a.value
      obtain ⟨shown, hidden, hvalue, hshown⟩ := List.eq_append_cons_of_mem hmem
      rw [hvalue, takeWhile_bracket hshown]
      refine ⟨a.name.toList ++ ['='], a.value.delimiters.1,
        hidden ++ a.value.delimiters.2 :: attributeText rest, ?_, ?_, hopening, hslash⟩
      · rw [valueStart]
        simp
      · exact (ha.append (by decide)).2
    · rw [List.find?_cons_of_neg (by simpa using hmem)] at hfind
      obtain ⟨before, c, after, htext, hbefore, hc⟩ := ih hrest hfind
      obtain ⟨-, hclosing, -⟩ := closing_ne a.value
      refine ⟨(valueStart a).tail ++ a.value.inner.toList ++ a.value.delimiters.2 :: ' ' :: before,
        c, after, ?_, ?_, hc⟩
      · rw [htext, valueStart]
        simp
      · have htail : '>' ∉ (valueStart a).tail := fun h => hstart.2 (List.mem_of_mem_tail h)
        simp [htail, hmem, hbefore, hclosing.symm]

omit hname hnames in
theorem beginsOpening_attributeText (attributes : List Attribute) :
    BeginsOpening (attributeText attributes) := by
  cases attributes with
  | nil => nofun
  | cons a rest =>
    rw [attributeText_cons, toList_blank_render, valueStart]
    rintro _ ⟨⟩
    decide

omit hnames in
theorem beginsOpening_componentTag (attributes : List Attribute) :
    BeginsOpening (name.toList ++ attributeText attributes ++ [' ', '/']) :=
  ((beginsOpening_of_isAlphanum hname).append (beginsOpening_attributeText attributes)).append
    beginsOpening_end

theorem not_opensElement_componentTag (h : ∀ value ∈ writtenValues attributes, '>' ∉ value) :
    ¬ opensElement (componentTag name attributes).toList = true := by
  have hbegins := beginsOpening_componentTag hname attributes
  have htag : '>' ∉ name.toList ++ attributeText attributes ++ [' ', '/'] := by
    simp [(unbracketed_of_isAlphanum hname).2, not_mem_attributeText hnames h]
  have hsize : 2 ≤ (name.toList ++ attributeText attributes ++ [' ', '/']).length := by
    rw [List.length_append]
    exact Nat.le_add_left ..
  rw [toList_componentTag, opensElement_iff hbegins hsize htag]
  simp

theorem opensElement_componentTag_of_find {value : List Char}
    (hfind : (writtenValues attributes).find? ('>' ∈ ·) = some value) :
    opensElement (componentTag name attributes).toList = true ↔
      (value.takeWhile (· != '>')).getLast? ≠ some '/' ∧
        ¬ ∃ value ∈ writtenValues attributes, ['<', '/'] <:+: value := by
  obtain ⟨before, c, after, htext, hbefore, hc, hslash⟩ := exists_attributeText_eq hnames hfind
  have hinside := pair_inside_iff hname hnames (.inr ⟨rfl, rfl⟩)
  rw [← hinside, toList_componentTag]
  generalize hshown : value.takeWhile (· != '>') = shown at htext ⊢
  have hline : name.toList ++ attributeText attributes ++ [' ', '/'] ++ ['>'] =
      name.toList ++ ' ' :: (before ++ c :: shown) ++ '>' :: (after ++ [' ', '/', '>']) := by
    rw [htext]
    simp
  have hbegins : BeginsOpening (name.toList ++ ' ' :: (before ++ c :: shown)) := by
    refine (beginsOpening_of_isAlphanum hname).append ?_
    rintro _ ⟨⟩
    decide
  have hsize : 2 ≤ (name.toList ++ ' ' :: (before ++ c :: shown)).length := by
    simp only [List.length_append, List.length_cons]
    omega
  have hinner : '>' ∉ name.toList ++ ' ' :: (before ++ c :: shown) := by
    have hnot : '>' ∉ shown := by
      rw [← hshown]
      intro hmem
      have hne := List.all_eq_true.mp List.all_takeWhile '>' hmem
      simp at hne
    simp [(unbracketed_of_isAlphanum hname).2, hbefore, hc.symm, hnot]
  have hlast : (name.toList ++ ' ' :: (before ++ c :: shown)).getLast? = some '/' ↔
      shown.getLast? = some '/' := by
    have hsplit : name.toList ++ ' ' :: (before ++ c :: shown) =
        name.toList ++ ' ' :: before ++ c :: shown := by simp
    rw [hsplit, List.getLast?_append, List.getLast?_cons]
    cases shown.getLast? <;> simp [hslash]
  rw [hline, opensElement_iff hbegins hsize hinner, Ne, hlast]

theorem opensElement_componentTag_iff :
    opensElement (componentTag name attributes).toList = true ↔
      ¬ LeavesClosed (writtenValues attributes) := by
  rw [LeavesClosed]
  cases hfind : (writtenValues attributes).find? ('>' ∈ ·) with
  | none =>
    have hvalues : ∀ value ∈ writtenValues attributes, '>' ∉ value := by
      simpa using List.find?_eq_none.mp hfind
    have hcloses := not_opensElement_componentTag hname hnames hvalues
    simp [hcloses]
  | some value =>
    rw [opensElement_componentTag_of_find hname hnames hfind]
    simp [and_comm]

omit hnames in
theorem levelAt_componentTag (level : Nat) :
    levelAt level (componentTag name attributes).toList = level := by
  have hbegins := beginsOpening_componentTag hname attributes
  rw [toList_componentTag, levelAt, startsClosing_tag hbegins]
  rfl

theorem levelAfter_componentTag (level : Nat) :
    levelAfter level (componentTag name attributes).toList =
      if LeavesClosed (writtenValues attributes) then level else level + 1 := by
  have hopens := opensElement_componentTag_iff hname hnames
  rw [levelAfter, levelAt_componentTag hname]
  by_cases hclosed : LeavesClosed (writtenValues attributes)
  · simp [hopens, hclosed]
  · simp [hopens, hclosed]

end SceneMarkup.Markup
