import SceneMarkup.Proofs.Markup.Tags
import SceneMarkup.Proofs.Text.Entities

/-!
# Written markup is read back

`Markup.items` is what a reader finds in a written markup tree: every tag with its attributes as
they stand, and texts with their entities. Main statement: a reader takes the whole text of a
readable tree and finds just that (`run_render`).
-/

namespace SceneMarkup

open Reader

/-! ## Attributes as they stand in tags -/

def Attribute.raw (a : Attribute) : RawAttribute where
  name := a.name.toList
  value := match a.value with
    | .quoted text => .quoted (EntityTable.quotedValue.encode text.toList)
    | .expression text => .braced text.toList

def Look.rawClasses (flavor : Flavor) (look : Look) : List RawAttribute :=
  if look.classes.isEmpty then []
  else [⟨flavor.classAttribute.toList, .quoted (" ".intercalate look.classes).toList⟩]

def Look.rawStyle (flavor : Flavor) (look : Look) : List RawAttribute :=
  if look.declarations.isEmpty then []
  else match flavor with
    | .html =>
      [⟨"style".toList, .quoted ("".intercalate (look.declarations.map Declaration.css)).toList⟩]
    | .jsx =>
      [⟨"style".toList, .braced
        ("\x7b " ++ ", ".intercalate (look.declarations.map Declaration.entry) ++ " \x7d").toList⟩]

def rawTitle : Option String → List RawAttribute
  | none => []
  | some title => [⟨"title".toList, .quoted (EntityTable.content.encode title.toList)⟩]

def rawAttributes (flavor : Flavor) (look : Look) (title : Option String) : List RawAttribute :=
  look.rawClasses flavor ++ look.rawStyle flavor ++ rawTitle title

/-! ## Readable trees -/

structure Look.IsReadable (look : Look) : Prop where
  classes : ∀ name ∈ look.classes, '"' ∉ name.toList
  values : ∀ d ∈ look.declarations, '"' ∉ d.value.toList

/-- The name can be read as one, and an expression holds neither quotes nor braces. -/
structure Attribute.IsReadable (a : Attribute) : Prop where
  name : IsKey a.name.toList
  expression : ∀ text, a.value = .expression text → IsPlain text.toList

namespace Markup

mutual

def IsReadable : Markup → Prop
  | marker => True
  | text _ => True
  | element _ look _ content => look.IsReadable ∧ AllReadable content
  | component name attributes => IsTagName name.toList ∧ ∀ a ∈ attributes, a.IsReadable

def AllReadable : List Markup → Prop
  | [] => True
  | m :: rest => m.IsReadable ∧ AllReadable rest

end

mutual

/-- What a reader has found after a tree, given what it had found before. -/
def items (flavor : Flavor) (before : List Item) : Markup → List Item
  | marker => addText before markerText.toList
  | text characters => addText before (flavor.entities.encode characters.toList)
  | element tag look title content =>
    before ++ [.element tag (rawAttributes flavor look title) (allItems flavor [] content)]
  | component name attributes => before ++ [.component name.toList (attributes.map Attribute.raw)]

def allItems (flavor : Flavor) (before : List Item) : List Markup → List Item
  | [] => before
  | m :: rest => allItems flavor (items flavor before m) rest

end

end Markup

namespace Reader

variable {flavor : Flavor} {o : List OpenElement} {i : List Item}

/-! ## Attributes -/

/-- A part of a tag that stands for attributes, wherever attributes may follow. -/
def Spells (text : List Char) (attributes : List RawAttribute) : Prop :=
  ∀ flavor o i place head, Place.At place head → ∃ place',
    Place.At place' ⟨head.name, head.attributes ++ attributes⟩ ∧
      run flavor ⟨o, i, place⟩ text = some ⟨o, i, place'⟩

theorem Spells.nil : Spells [] [] := fun _ _ _ place head h =>
  ⟨place, by rwa [List.append_nil], rfl⟩

theorem Spells.append {a b : List Char} {as bs : List RawAttribute} (ha : Spells a as)
    (hb : Spells b bs) : Spells (a ++ b) (as ++ bs) := fun flavor o i place head h => by
  obtain ⟨place₁, h₁, hrun₁⟩ := ha flavor o i place head h
  obtain ⟨place₂, h₂, hrun₂⟩ := hb flavor o i place₁ _ h₁
  refine ⟨place₂, by rwa [← List.append_assoc], ?_⟩
  rw [run_append_of hrun₁, hrun₂]

theorem Spells.quoted {key text : List Char} (hkey : IsKey key) (htext : '"' ∉ text) :
    Spells (' ' :: (key ++ '=' :: '"' :: (text ++ ['"']))) [⟨key, .quoted text⟩] :=
  fun _ _ _ _ head h => ⟨_, .inside (head.add key (.quoted text)), run_quoted h hkey htext⟩

theorem Spells.braced {key text : List Char} (hkey : IsKey key)
    (htext : Nesting.none.after text = some .none) :
    Spells (' ' :: (key ++ '=' :: '\x7b' :: (text ++ ['\x7d']))) [⟨key, .braced text⟩] :=
  fun _ _ _ _ head h => ⟨_, .inside (head.add key (.braced text)), run_braced h hkey htext⟩

theorem toList_quotedAttribute (name value : String) :
    (quotedAttribute name value).toList =
      ' ' :: (name.toList ++ '=' :: '"' :: (value.toList ++ ['"'])) := by
  simp [quotedAttribute]

theorem intercalate_empty : ∀ texts : List String, "".intercalate texts = String.join texts
  | [] => by simp
  | [t] => by simp
  | t :: u :: rest => by
    rw [String.intercalate_cons_cons, String.append_empty, intercalate_empty (u :: rest),
      String.join_cons (l := u :: rest)]

theorem spells_attribute {a : Attribute} (h : a.IsReadable) :
    Spells (" " ++ a.render).toList [a.raw] := by
  obtain ⟨name, value⟩ := a
  cases value with
  | quoted text =>
    have hquote : '"' ∉ EntityTable.quotedValue.encode text.toList :=
      EntityTable.not_mem_encode (.tail _ (.head _)) (by decide) _
    simpa [Attribute.render, AttributeValue.inner, EntityTable.escape, Attribute.raw] using
      Spells.quoted h.name hquote
  | expression text =>
    simpa [Attribute.render, AttributeValue.inner, Attribute.raw] using
      Spells.braced h.name (Nesting.after_plain (h.expression text rfl) .none)

theorem spells_attributes : ∀ {attributes : List Attribute}, (∀ a ∈ attributes, a.IsReadable) →
    Spells (attributes.flatMap fun a => (" " ++ a.render).toList) (attributes.map Attribute.raw)
  | [], _ => .nil
  | _ :: _, h =>
    have h := List.forall_mem_cons.mp h
    .append (spells_attribute h.1) (spells_attributes h.2)

/-! ## Looks -/

theorem isKey_classAttribute (flavor : Flavor) : IsKey flavor.classAttribute.toList := by
  cases flavor <;> decide

theorem not_mem_append {c : Char} {a b : String} (ha : c ∉ a.toList) (hb : c ∉ b.toList) :
    c ∉ (a ++ b).toList := by
  rw [String.toList_append, List.mem_append, not_or]
  exact ⟨ha, hb⟩

theorem not_mem_intercalate {c : Char} {separator : List Char} (hseparator : c ∉ separator) :
    ∀ {texts : List (List Char)}, (∀ t ∈ texts, c ∉ t) → c ∉ separator.intercalate texts
  | [], _ => by simp
  | [t], h => by simpa using h
  | t :: u :: rest, h => by
    obtain ⟨ht, hrest⟩ := List.forall_mem_cons.mp h
    simp only [List.intercalate_cons_cons, List.mem_append, not_or]
    exact ⟨⟨ht, hseparator⟩, not_mem_intercalate hseparator hrest⟩

theorem spells_classText {look : Look} (h : look.IsReadable) (flavor : Flavor) :
    Spells (look.classText flavor).toList (look.rawClasses flavor) := by
  unfold Look.classText Look.rawClasses
  split
  · exact .nil
  · rw [toList_quotedAttribute]
    refine .quoted (isKey_classAttribute flavor) ?_
    rw [String.toList_intercalate]
    exact not_mem_intercalate (by decide) (by simpa using h.classes)

theorem quote_not_mem_css {d : Declaration} (h : '"' ∉ d.value.toList) : '"' ∉ d.css.toList := by
  obtain ⟨property, value⟩ := d
  have hproperty : '"' ∉ property.kebab.toList := by cases property <;> decide
  exact not_mem_append (not_mem_append (not_mem_append hproperty (by decide)) h) (by decide)

theorem after_entry (d : Declaration) (rest : List Char) :
    (Nesting.mk 1 false).after (d.entry.toList ++ rest) = (Nesting.mk 1 false).after rest := by
  obtain ⟨property, value⟩ := d
  have hname : IsPlain property.camel.toList := by cases property <;> decide
  have hvalue : '"' ∉ EntityTable.quotedValue.encode value.toList :=
    EntityTable.not_mem_encode (.tail _ (.head _)) (by decide) _
  simp only [Declaration.entry, EntityTable.escape, String.toList_append, String.toList_ofList,
    List.append_assoc]
  rw [Nesting.after_append (Nesting.after_plain hname ⟨1, false⟩),
    Nesting.after_append (m := ⟨1, true⟩) rfl,
    Nesting.after_append (Nesting.after_quotes hvalue 1),
    Nesting.after_append (m := ⟨1, false⟩) rfl]

theorem after_entries : ∀ (ds : List Declaration) (rest : List Char),
    (Nesting.mk 1 false).after ((", ".intercalate (ds.map Declaration.entry)).toList ++ rest) =
      (Nesting.mk 1 false).after rest
  | [], rest => by simp
  | [d], rest => by simpa using after_entry d rest
  | d :: e :: ds, rest => by
    rw [List.map_cons, List.map_cons, String.intercalate_cons_cons, ← List.map_cons]
    simp only [String.toList_append, List.append_assoc]
    rw [after_entry, Nesting.after_append (m := ⟨1, false⟩) rfl, after_entries]

theorem spells_styleText {look : Look} (h : look.IsReadable) (flavor : Flavor) :
    Spells (look.styleText flavor).toList (look.rawStyle flavor) := by
  unfold Look.styleText Look.rawStyle
  split
  · exact .nil
  · cases flavor with
    | html =>
      rw [toList_quotedAttribute]
      refine .quoted (by decide) ?_
      rw [String.toList_intercalate]
      refine not_mem_intercalate (by decide) ?_
      simpa using fun d hd => quote_not_mem_css (h.values d hd)
    | jsx =>
      have hnesting : Nesting.none.after ("\x7b " ++ ", ".intercalate
          (look.declarations.map Declaration.entry) ++ " \x7d").toList = some .none := by
        simp only [String.toList_append, List.append_assoc]
        rw [Nesting.after_append (m := ⟨1, false⟩) rfl, after_entries]
        rfl
      have hkey : IsKey "style".toList := by decide
      simpa using Spells.braced hkey hnesting

theorem spells_titleText (title : Option String) :
    Spells (titleText title).toList (rawTitle title) := by
  cases title with
  | none => exact .nil
  | some title =>
    simp only [titleText, toList_quotedAttribute, EntityTable.escape, String.toList_ofList]
    exact .quoted (by decide) (EntityTable.not_mem_encode (.tail _ (.tail _ (.tail _ (.head _))))
      (by decide) _)

/-! ## Trees -/

theorem run_openingTag {tag : Tag} {look : Look} (h : look.IsReadable) (title : Option String) :
    run flavor ⟨o, i, .content⟩ (Markup.openingTag flavor tag look title).toList =
      some ⟨⟨tag, rawAttributes flavor look title, i⟩ :: o, [], .content⟩ := by
  have hspells := ((spells_classText h flavor).append (spells_styleText h flavor)).append
    (spells_titleText title)
  obtain ⟨place, hplace, hrun⟩ := hspells flavor o i _ _ (.name tag.name.toList)
  have htext : (Markup.openingTag flavor tag look title).toList =
      ('<' :: tag.name.toList) ++ (((look.classText flavor).toList ++
        (look.styleText flavor).toList ++ (titleText title).toList) ++ ['>']) := by
    simp [Markup.openingTag]
  rw [htext, run_append_of (run_tagName (isTagName_name tag)), run_append_of hrun]
  exact run_enter hplace rfl

theorem run_closingTag {tag : Tag} {attributes : List RawAttribute} {before : List Item} :
    run flavor ⟨⟨tag, attributes, before⟩ :: o, i, .content⟩ (Markup.closingTag tag).toList =
      some ⟨o, before ++ [.element tag attributes i], .content⟩ := by
  have htext : (Markup.closingTag tag).toList = '<' :: '/' :: (tag.name.toList ++ ['>']) := by
    simp [Markup.closingTag]
  rw [htext, run_leave]

theorem run_componentTag {name : String} (hname : IsTagName name.toList)
    {attributes : List Attribute} (h : ∀ a ∈ attributes, a.IsReadable) :
    run flavor ⟨o, i, .content⟩ (Markup.componentTag name attributes).toList =
      some ⟨o, i ++ [.component name.toList (attributes.map Attribute.raw)], .content⟩ := by
  obtain ⟨place, hplace, hrun⟩ := spells_attributes h flavor o i _ _ (.name name.toList)
  have htext : (Markup.componentTag name attributes).toList =
      ('<' :: name.toList) ++
        ((attributes.flatMap fun a => (" " ++ a.render).toList) ++ [' ', '/', '>']) := by
    rw [Markup.componentTag, intercalate_empty]
    simp [List.flatMap_map]
  rw [htext, run_append_of (run_tagName hname), run_append_of hrun]
  exact run_selfClose hplace

theorem isContentChar_of_mem_encode (flavor : Flavor) (text : List Char) :
    ∀ c ∈ flavor.entities.encode text, isContentChar flavor c = true := by
  intro c hc
  have hne {d : Char} {entity : String} (hd : (d, entity) ∈ flavor.entities)
      (h : ∀ p ∈ flavor.entities, d ∉ p.2.toList) : c ≠ d := by
    rintro rfl
    exact EntityTable.not_mem_encode hd h text hc
  cases flavor with
  | html =>
    have hlt := hne (d := '<') (.tail _ (.head _)) (by decide)
    have hgt := hne (d := '>') (.tail _ (.tail _ (.head _))) (by decide)
    simp [isContentChar, hlt, hgt]
  | jsx =>
    have hlt := hne (d := '<') (.tail _ (.head _)) (by decide)
    have hgt := hne (d := '>') (.tail _ (.tail _ (.head _))) (by decide)
    have hopen := hne (d := '\x7b') (List.mem_append_right _ (.head _)) (by decide)
    have hclose := hne (d := '\x7d') (List.mem_append_right _ (.tail _ (.head _))) (by decide)
    simp [isContentChar, hlt, hgt, hopen, hclose]

theorem isContentChar_of_mem_marker (flavor : Flavor) :
    ∀ c ∈ Markup.markerText.toList, isContentChar flavor c = true :=
  List.all_eq_true.mp (by cases flavor <;> decide)

mutual

/-- A reader takes the whole text of a readable tree. -/
theorem run_render : ∀ (m : Markup), m.IsReadable → ∀ (o : List OpenElement) (i : List Item),
    run flavor ⟨o, i, .content⟩ (m.render flavor).toList = some ⟨o, m.items flavor i, .content⟩
  | .marker, _, o, i => by
    rw [Markup.render, run_text (isContentChar_of_mem_marker flavor), Markup.items]
  | .text characters, _, o, i => by
    rw [Markup.render, EntityTable.escape, String.toList_ofList,
      run_text (isContentChar_of_mem_encode flavor _), Markup.items]
  | .element tag look title content, h, o, i => by
    rw [Markup.IsReadable] at h
    simp only [Markup.render, String.toList_append, List.append_assoc]
    rw [run_append_of (run_openingTag h.1 title), run_append_of (run_renderAll content h.2 _ _),
      run_closingTag, Markup.items]
  | .component name attributes, h, o, i => by
    rw [Markup.IsReadable] at h
    rw [Markup.render, run_componentTag h.1 h.2, Markup.items]

theorem run_renderAll : ∀ (ms : List Markup), Markup.AllReadable ms →
    ∀ (o : List OpenElement) (i : List Item),
      run flavor ⟨o, i, .content⟩ (Markup.renderAll flavor ms).toList =
        some ⟨o, Markup.allItems flavor i ms, .content⟩
  | [], _, o, i => by rw [Markup.renderAll, Markup.allItems, String.toList_empty, run_nil]
  | m :: rest, h, o, i => by
    rw [Markup.AllReadable] at h
    rw [Markup.renderAll, String.toList_append, run_append_of (run_render m h.1 o i),
      run_renderAll rest h.2 o _, Markup.allItems]

end

theorem read_render {m : Markup} (h : m.IsReadable) (flavor : Flavor) :
    read flavor (m.render flavor) = some (m.items flavor []) := by
  rw [read, start, run_render m h]; rfl

end Reader

end SceneMarkup
