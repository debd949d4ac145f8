import SceneMarkup.Proofs.Emit.Looks
import SceneMarkup.Proofs.Markup.Blocks

/-!
# Elements as blocks

What follows the name in the tag of an element or a component is a tail (`IsTail`) if the look of
the element, or every attribute of the component, is written without brackets; titles always are. So
elements and components are blocks: on one line if they hold a text, else around the lines of what
they hold.
-/

namespace SceneMarkup

open Markup (Unbracketed IsTail IsOpening IsBlock)

/-- No class and no declared value holds a bracket. -/
structure Look.IsUnbracketed (look : Look) : Prop where
  opening : look.Lacks '<'
  closing : look.Lacks '>'

namespace Look.IsUnbracketed

variable {look : Look}

theorem className (h : look.IsUnbracketed) {name : String} (hname : name ∈ look.classes) :
    Unbracketed name.toList := ⟨h.opening.classes name hname, h.closing.classes name hname⟩

theorem value (h : look.IsUnbracketed) {d : Declaration} (hd : d ∈ look.declarations) :
    Unbracketed d.value.toList := ⟨h.opening.values d hd, h.closing.values d hd⟩

end Look.IsUnbracketed

def AttributeValue.delimiters : AttributeValue → Char × Char
  | quoted _ => ('"', '"')
  | expression _ => ('\x7b', '\x7d')

theorem Attribute.toList_render (a : Attribute) :
    a.render.toList =
      (a.name.toList ++ '=' :: a.value.delimiters.1 :: a.value.inner.toList) ++
        [a.value.delimiters.2] := by
  obtain ⟨name, value⟩ := a
  cases value <;> simp [render, AttributeValue.delimiters]

namespace Markup

theorem unbracketed_append {a b : String} (ha : Unbracketed a.toList) (hb : Unbracketed b.toList) :
    Unbracketed (a ++ b).toList := by
  rw [String.toList_append]
  exact ha.append hb

theorem unbracketed_intercalate {separator : String} (hseparator : Unbracketed separator.toList)
    {texts : List String} (h : ∀ text ∈ texts, Unbracketed text.toList) :
    Unbracketed (separator.intercalate texts).toList := by
  rw [String.toList_intercalate]
  refine ⟨Reader.not_mem_intercalate hseparator.1 ?_, Reader.not_mem_intercalate hseparator.2 ?_⟩
  · exact List.forall_mem_map.mpr fun text htext => (h text htext).1
  · exact List.forall_mem_map.mpr fun text htext => (h text htext).2

theorem unbracketed_quotedValue {text : List Char} (h : Unbracketed text) :
    Unbracketed (EntityTable.quotedValue.encode text) :=
  ⟨EntityTable.not_mem_encode_of_not_mem (by decide) h.1,
    EntityTable.not_mem_encode_of_not_mem (by decide) h.2⟩

theorem unbracketed_content (text : List Char) : Unbracketed (EntityTable.content.encode text) :=
  ⟨EntityTable.not_mem_encode (.tail _ (.head _)) (by decide) text,
    EntityTable.not_mem_encode (.tail _ (.tail _ (.head _))) (by decide) text⟩

theorem unbracketed_entities (flavor : Flavor) (text : List Char) :
    Unbracketed (flavor.entities.encode text) := by
  cases flavor with
  | html => exact unbracketed_content text
  | jsx =>
    exact ⟨EntityTable.not_mem_encode (.tail _ (.head _)) (by decide) text,
      EntityTable.not_mem_encode (.tail _ (.tail _ (.head _))) (by decide) text⟩

/-! ## Tails -/

theorem isTail_blank {text : List Char} {last : Char} (h : Unbracketed (text ++ [last]))
    (hlast : last ≠ '/') : IsTail (' ' :: (text ++ [last])) where
  unbracketed := by
    have hblank : Unbracketed [' '] := by decide
    exact hblank.append h
  begins := by
    rintro c ⟨⟩
    rfl
  ends := by
    intro c hc
    rw [← List.cons_append, List.getLast?_concat] at hc
    cases hc
    exact hlast

theorem isTail_quotedAttribute {name value : String} (hname : Unbracketed name.toList)
    (hvalue : Unbracketed value.toList) : IsTail (quotedAttribute name value).toList := by
  have htext : (quotedAttribute name value).toList =
      ' ' :: (name.toList ++ ['=', '"'] ++ value.toList ++ ['"']) := by
    simp [quotedAttribute]
  rw [htext]
  exact isTail_blank (((hname.append (by decide)).append hvalue).append (by decide)) (by decide)

theorem isTail_classText {look : Look} (h : look.IsUnbracketed) (flavor : Flavor) :
    IsTail (look.classText flavor).toList := by
  unfold Look.classText
  split
  · exact .nil
  · have hname : Unbracketed flavor.classAttribute.toList := by cases flavor <;> decide
    refine isTail_quotedAttribute hname (unbracketed_intercalate (by decide) ?_)
    exact fun name hmem => h.className hmem

theorem unbracketed_css {d : Declaration} (h : Unbracketed d.value.toList) :
    Unbracketed d.css.toList := by
  have hname : Unbracketed d.property.kebab.toList := by cases d.property <;> decide
  exact unbracketed_append (unbracketed_append (unbracketed_append hname (by decide)) h) (by decide)

theorem unbracketed_entry {d : Declaration} (h : Unbracketed d.value.toList) :
    Unbracketed d.entry.toList := by
  have hname : Unbracketed d.property.camel.toList := by cases d.property <;> decide
  have hvalue : Unbracketed (EntityTable.quotedValue.escape d.value).toList := by
    rw [EntityTable.escape, String.toList_ofList]
    exact unbracketed_quotedValue h
  exact unbracketed_append (unbracketed_append (unbracketed_append hname (by decide)) hvalue)
    (by decide)

theorem isTail_styleText {look : Look} (h : look.IsUnbracketed) (flavor : Flavor) :
    IsTail (look.styleText flavor).toList := by
  unfold Look.styleText
  split
  · exact .nil
  · cases flavor with
    | html =>
      refine isTail_quotedAttribute (by decide) (unbracketed_intercalate (by decide) ?_)
      exact List.forall_mem_map.mpr fun d hd => unbracketed_css (h.value hd)
    | jsx =>
      have hentries : Unbracketed
          (", ".intercalate (look.declarations.map Declaration.entry)).toList :=
        unbracketed_intercalate (by decide)
          (List.forall_mem_map.mpr fun d hd => unbracketed_entry (h.value hd))
      have hstart : Unbracketed "style=\x7b\x7b ".toList := by decide
      have hend : Unbracketed " \x7d".toList := by decide
      have hlast : Unbracketed ['\x7d'] := by decide
      simpa using isTail_blank (((hstart.append hentries).append hend).append hlast) (by decide)

theorem isTail_titleText (title : Option String) : IsTail (titleText title).toList := by
  cases title with
  | none => exact .nil
  | some title =>
    refine isTail_quotedAttribute (by decide) ?_
    rw [EntityTable.escape, String.toList_ofList]
    exact unbracketed_content _

theorem isTail_attribute {a : Attribute} (h : Unbracketed a.render.toList) :
    IsTail (" " ++ a.render).toList := by
  rw [String.toList_append]
  rw [Attribute.toList_render] at h ⊢
  refine isTail_blank h ?_
  cases a.value <;> simp [AttributeValue.delimiters]

def attributeText (attributes : List Attribute) : List Char :=
  attributes.flatMap fun a => (" " ++ a.render).toList

theorem attributeText_cons (a : Attribute) (rest : List Attribute) :
    attributeText (a :: rest) = (" " ++ a.render).toList ++ attributeText rest := rfl

theorem toList_componentTag (name : String) (attributes : List Attribute) :
    (componentTag name attributes).toList =
      '<' :: (name.toList ++ attributeText attributes ++ [' ', '/'] ++ ['>']) := by
  rw [componentTag, Reader.intercalate_empty, attributeText]
  simp [List.flatMap_map]

theorem isTail_attributeText {attributes : List Attribute}
    (h : ∀ a ∈ attributes, Unbracketed a.render.toList) : IsTail (attributeText attributes) := by
  induction attributes with
  | nil => exact .nil
  | cons a rest ih =>
    obtain ⟨ha, hrest⟩ := List.forall_mem_cons.mp h
    exact (isTail_attribute ha).append (ih hrest)

/-! ## Blocks -/

theorem exists_isOpening {look : Look} (h : look.IsUnbracketed) (flavor : Flavor) (tag : Tag)
    (title : Option String) :
    ∃ inner, IsOpening tag inner ∧
      (openingTag flavor tag look title).toList = '<' :: (inner ++ ['>']) := by
  have htail := ((isTail_classText h flavor).append (isTail_styleText h flavor)).append
    (isTail_titleText title)
  exact ⟨_, htail.isOpening tag, by simp [openingTag]⟩

theorem toList_renderAll (flavor : Flavor) (content : List Markup) :
    (renderAll flavor content).toList =
      (content.map fun m => (m.render flavor).toList).flatten := by
  induction content with
  | nil => rfl
  | cons m rest ih => rw [renderAll, String.toList_append, ih, List.map_cons, List.flatten_cons]

variable {flavor : Flavor} {look : Look}

theorem isBlock_element (h : look.IsUnbracketed) (tag : Tag) (title : Option String)
    {content : List Markup} (hcontent : ∀ m ∈ content, IsBlock (m.render flavor).toList) :
    IsBlock ((element tag look title content).render flavor).toList := by
  obtain ⟨inner, hinner, hopening⟩ := exists_isOpening h flavor tag title
  rw [render, String.toList_append, String.toList_append, hopening, toList_renderAll,
    List.append_assoc]
  exact .wrapped hinner (List.forall_mem_map.mpr hcontent)

theorem isBlock_filled (h : look.IsUnbracketed) (tag : Tag) (title : Option String) {m : Markup}
    (hne : (m.render flavor).toList ≠ []) (htext : Unbracketed (m.render flavor).toList) :
    IsBlock ((element tag look title [m]).render flavor).toList := by
  obtain ⟨inner, hinner, hopening⟩ := exists_isOpening h flavor tag title
  have hrender : ((element tag look title [m]).render flavor).toList =
      '<' :: (inner ++ '>' :: ((m.render flavor).toList ++ (closingTag tag).toList)) := by
    rw [render, String.toList_append, String.toList_append, hopening, toList_renderAll]
    simp
  rw [hrender]
  exact .filled hinner hne htext

theorem isBlock_text (h : look.IsUnbracketed) (tag : Tag) (title : Option String)
    (characters : String) :
    IsBlock ((element tag look title [.text characters]).render flavor).toList := by
  have htext : Unbracketed ((text characters).render flavor).toList := by
    rw [render, EntityTable.escape, String.toList_ofList]
    exact unbracketed_entities flavor _
  by_cases hempty : ((text characters).render flavor).toList = []
  · -- the closing tag follows the opening one, so it is on a line of its own
    have hrender : (element tag look title [.text characters]).render flavor =
        (element tag look title []).render flavor := by
      rw [String.toList_eq_nil_iff] at hempty
      simp only [render, renderAll] at hempty ⊢
      rw [hempty, String.append_empty]
    rw [hrender]
    exact isBlock_element h tag title (List.forall_mem_nil _)
  · exact isBlock_filled h tag title hempty htext

theorem isBlock_marker (h : look.IsUnbracketed) (tag : Tag) (title : Option String) :
    IsBlock ((element tag look title [.marker]).render flavor).toList := by
  have hmarker : (marker.render flavor).toList = markerText.toList := by rw [render]
  refine isBlock_filled h tag title ?_ ?_ <;> rw [hmarker] <;> decide

theorem isBlock_component {name : String} (hname : ∀ c ∈ name.toList, c.isAlphanum = true)
    {attributes : List Attribute} (h : ∀ a ∈ attributes, Unbracketed a.render.toList) :
    IsBlock ((component name attributes).render flavor).toList := by
  rw [render, toList_componentTag]
  exact .selfClosing hname (isTail_attributeText h)

end Markup

end SceneMarkup
