import SceneMarkup.Proofs.Markup.Reading
import SceneMarkup.Proofs.Text.Occurrences

/-!
# Markers in a text

`Markup.markerCount` counts the zero-width markers in a text. A part of a text is unmarked
(`Unmarked`) if it adds none, whatever follows it: parts without an ampersand are, and those that
hold no marker and end with a character that no marker holds. No entity is the beginning of a
marker, so an element holds those of its content alone, if no class of its look holds one
(`markerCount_element`).
-/

namespace SceneMarkup

def Markup.markerCount (text : List Char) : Nat := Text.occurrences Markup.markerText.toList text

/-- No class holds a marker, and no declared value the second character of one. -/
structure Look.IsUnmarked (look : Look) : Prop where
  classes : ∀ name ∈ look.classes, Markup.markerCount name.toList = 0
  values : ∀ d ∈ look.declarations, '#' ∉ d.value.toList

namespace Markup

variable {a b text : List Char}

theorem toList_markerText : markerText.toList = '&' :: "#8203;".toList := by decide

theorem markerCount_nil : markerCount [] = 0 := by decide

theorem markerCount_cons_of_ne {c : Char} (h : c ≠ '&') (text : List Char) :
    markerCount (c :: text) = markerCount text := by
  simp only [markerCount, toList_markerText]
  exact Text.occurrences_cons_of_ne h _ text

theorem markerCount_append (h : ∀ c ∈ b.head?, c ∉ markerText.toList) :
    markerCount (a ++ b) = markerCount a + markerCount b :=
  Text.occurrences_append (by decide) h

theorem markerCount_append_cons {c : Char} (h : c ∉ markerText.toList) (a b : List Char) :
    markerCount (a ++ c :: b) = markerCount a + markerCount b := by
  rw [toList_markerText] at h
  simp only [markerCount, toList_markerText]
  exact Text.occurrences_append_cons h a b

theorem markerCount_of_not_mem {c : Char} (hc : c ∈ markerText.toList) (h : c ∉ text) :
    markerCount text = 0 := Text.occurrences_eq_zero_of_not_mem hc h

/-! ## Entities -/

theorem occurrences_entity {p : Char × String} (hp : p ∈ EntityTable.bracedContent)
    (rest : List Char) :
    Text.occurrences ('&' :: "#8203;".toList) (p.2.toList ++ rest) =
      Text.occurrences ('&' :: "#8203;".toList) rest := by
  simp only [EntityTable.bracedContent, EntityTable.content, List.cons_append, List.nil_append,
    List.mem_cons, List.not_mem_nil, or_false] at hp
  rcases hp with rfl | rfl | rfl | rfl | rfl | rfl | rfl <;> simp [Text.occurrences_cons]

theorem markerCount_encode {table : EntityTable} {entity : String} (hamp : ('&', entity) ∈ table)
    (htable : table ⊆ EntityTable.bracedContent) (text : List Char) :
    markerCount (table.encode text) = 0 := by
  rw [markerCount, toList_markerText]
  exact Text.occurrences_encode hamp (fun p hp => occurrences_entity (htable hp)) text

theorem markerCount_quotedValue (text : List Char) :
    markerCount (EntityTable.quotedValue.encode text) = 0 :=
  markerCount_encode (.head _) (by decide) text

theorem markerCount_content (text : List Char) :
    markerCount (EntityTable.content.encode text) = 0 :=
  markerCount_encode (.head _) (List.subset_append_left _ _) text

theorem markerCount_entities (flavor : Flavor) (text : List Char) :
    markerCount (flavor.entities.encode text) = 0 := by
  cases flavor with
  | html => exact markerCount_content text
  | jsx => exact markerCount_encode (.head _) (List.Subset.refl _) text

/-! ## Unmarked parts -/

/-- A part of a text that adds no marker to what follows it. -/
def Unmarked (text : List Char) : Prop := ∀ rest, markerCount (text ++ rest) = markerCount rest

namespace Unmarked

theorem nil : Unmarked [] := fun _ => rfl

theorem append (ha : Unmarked a) (hb : Unmarked b) : Unmarked (a ++ b) := fun rest => by
  rw [List.append_assoc, ha, hb]

theorem cons {c : Char} (hc : c ≠ '&') (h : Unmarked text) : Unmarked (c :: text) := fun rest => by
  rw [List.cons_append, markerCount_cons_of_ne hc, h]

theorem of_not_mem (h : '&' ∉ text) : Unmarked text := by
  induction text with
  | nil => exact nil
  | cons c text ih =>
    obtain ⟨hc, htext⟩ := List.ne_and_not_mem_of_not_mem_cons h
    exact cons hc.symm (ih htext)

theorem closed {c : Char} (hc : c ∉ markerText.toList) (h : markerCount text = 0) :
    Unmarked (text ++ [c]) := fun rest => by
  rw [List.append_assoc, List.singleton_append, markerCount_append_cons hc, h, Nat.zero_add]

theorem markerCount_eq_zero (h : Unmarked text) : markerCount text = 0 := by
  rw [← List.append_nil text, h]
  exact markerCount_nil

end Unmarked

theorem unmarked_quotedAttribute {name value : String} (hname : '&' ∉ name.toList)
    (hvalue : markerCount value.toList = 0) : Unmarked (quotedAttribute name value).toList := by
  rw [Reader.toList_quotedAttribute]
  have hvalue : Unmarked (value.toList ++ ['"']) := .closed (by decide) hvalue
  exact .cons (by decide) (.append (.of_not_mem hname)
    (.cons (by decide) (.cons (by decide) hvalue)))

/-! ## Elements -/

variable {look : Look}

theorem unmarked_classText (h : look.IsUnmarked) (flavor : Flavor) :
    Unmarked (look.classText flavor).toList := by
  unfold Look.classText
  split
  · exact .nil
  · have hname : '&' ∉ flavor.classAttribute.toList := by cases flavor <;> decide
    apply unmarked_quotedAttribute hname
    -- a marker in the list of classes would be one in a class
    rw [String.toList_intercalate, markerCount, toList_markerText]
    apply Text.occurrences_intercalate (by decide)
    rw [List.forall_mem_map, ← toList_markerText]
    exact h.classes

theorem hash_not_mem_css {d : Declaration} (h : '#' ∉ d.value.toList) : '#' ∉ d.css.toList := by
  have hname : '#' ∉ d.property.kebab.toList := by cases d.property <;> decide
  exact Reader.not_mem_append (Reader.not_mem_append (Reader.not_mem_append hname (by decide)) h)
    (by decide)

theorem hash_not_mem_entry {d : Declaration} (h : '#' ∉ d.value.toList) :
    '#' ∉ d.entry.toList := by
  have hname : '#' ∉ d.property.camel.toList := by cases d.property <;> decide
  have hvalue : '#' ∉ (EntityTable.quotedValue.escape d.value).toList := by
    rw [EntityTable.escape, String.toList_ofList]
    exact EntityTable.not_mem_encode_of_not_mem (by decide) h
  exact Reader.not_mem_append
    (Reader.not_mem_append (Reader.not_mem_append hname (by decide)) hvalue) (by decide)

theorem hash_not_mem_intercalate {separator : String} (hseparator : '#' ∉ separator.toList)
    {texts : List String} (h : ∀ text ∈ texts, '#' ∉ text.toList) :
    '#' ∉ (separator.intercalate texts).toList := by
  rw [String.toList_intercalate]
  exact Reader.not_mem_intercalate hseparator (List.forall_mem_map.mpr h)

theorem unmarked_styleText (h : look.IsUnmarked) (flavor : Flavor) :
    Unmarked (look.styleText flavor).toList := by
  unfold Look.styleText
  split
  · exact .nil
  · cases flavor with
    | html =>
      have hcss : '#' ∉ ("".intercalate (look.declarations.map Declaration.css)).toList :=
        hash_not_mem_intercalate (by decide)
          (List.forall_mem_map.mpr fun d hd => hash_not_mem_css (h.values d hd))
      exact unmarked_quotedAttribute (by decide) (markerCount_of_not_mem (by decide) hcss)
    | jsx =>
      have hentries : '#' ∉ (", ".intercalate (look.declarations.map Declaration.entry)).toList :=
        hash_not_mem_intercalate (by decide)
          (List.forall_mem_map.mpr fun d hd => hash_not_mem_entry (h.values d hd))
      have hstyle : Unmarked (" style=\x7b\x7b ".toList ++
          ((", ".intercalate (look.declarations.map Declaration.entry)).toList ++ [' '])) :=
        .append (.of_not_mem (by decide))
          (.closed (by decide) (markerCount_of_not_mem (by decide) hentries))
      have hend : Unmarked "\x7d\x7d".toList := .of_not_mem (by decide)
      simpa using hstyle.append hend

theorem unmarked_titleText (title : Option String) : Unmarked (titleText title).toList := by
  cases title with
  | none => exact .nil
  | some title =>
    apply unmarked_quotedAttribute (by decide)
    rw [EntityTable.escape, String.toList_ofList]
    exact markerCount_content _

theorem unmarked_openingTag (h : look.IsUnmarked) (flavor : Flavor) (tag : Tag)
    (title : Option String) : Unmarked (openingTag flavor tag look title).toList := by
  have hname : Unmarked tag.name.toList := .of_not_mem (by cases tag <;> decide)
  have hstart : Unmarked "<".toList := .of_not_mem (by decide)
  have hend : Unmarked ">".toList := .of_not_mem (by decide)
  simp only [openingTag, String.toList_append]
  exact ((((hstart.append hname).append (unmarked_classText h flavor)).append
    (unmarked_styleText h flavor)).append (unmarked_titleText title)).append hend

theorem markerCount_element (h : look.IsUnmarked) (flavor : Flavor) (tag : Tag)
    (title : Option String) (content : String) :
    markerCount (openingTag flavor tag look title ++ content ++ closingTag tag).toList =
      markerCount content.toList := by
  have hend : Unmarked ('/' :: tag.name.toList ++ ['>']) :=
    .of_not_mem (by cases tag <;> decide)
  rw [String.toList_append, String.toList_append, List.append_assoc, unmarked_openingTag h,
    toList_closingTag, markerCount_append_cons (by decide), hend.markerCount_eq_zero, Nat.add_zero]

end Markup

end SceneMarkup
