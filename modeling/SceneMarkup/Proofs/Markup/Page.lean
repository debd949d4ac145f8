import SceneMarkup.Proofs.Markup.Skeleton
import SceneMarkup.Proofs.Markup.Style
import SceneMarkup.Proofs.Text.References

/-!
# Pages

A page is what a markup text says in either flavor: elements with their classes, their style entries
and their titles, texts, and component tags with their attributes. `Reader.readPages` reads one by
the rules of the flavor; it takes no attribute of an element that the flavor does not have.
`Markup.ShowsPage` relates the trees that are read as the same page in both flavors.
-/

namespace SceneMarkup

/-- What an attribute says of an element. -/
inductive Facet where
  | classes (names : List String)
  | style (entries : List StyleEntry)
  | title (text : String)
  deriving DecidableEq, Repr

inductive Page where
  | text (characters : String)
  | element (tag : Tag) (facets : List Facet) (content : List Page)
  | component (name : String) (attributes : List Attribute)
  deriving Repr

namespace Reader

/-! ## Reading pages -/

def resolveText (text : List Char) : String :=
  String.ofList (EntityTable.references.resolve text)

def classNames (text : String) : List String :=
  ((text.toList.splitOnP Char.isWhitespace).filter (!·.isEmpty)).map String.ofList

/-- An attribute of an element as HTML has it. -/
def RawAttribute.htmlFacet? (a : RawAttribute) : Option Facet :=
  match String.ofList a.name, a.value with
  | "class", .quoted text => some (.classes (classNames (resolveText text)))
  | "style", .quoted text => (readCss (resolveText text).toList).map .style
  | "title", .quoted text => some (.title (resolveText text))
  | _, _ => none

/-- An attribute of an element as JSX has it. -/
def RawAttribute.jsxFacet? (a : RawAttribute) : Option Facet :=
  match String.ofList a.name, a.value with
  | "className", .quoted text => some (.classes (classNames (resolveText text)))
  | "style", .braced text => (StyleObject.read text).map .style
  | "title", .quoted text => some (.title (resolveText text))
  | _, _ => none

def RawAttribute.facet? : Flavor → RawAttribute → Option Facet
  | .html => htmlFacet?
  | .jsx => jsxFacet?

/-- An attribute of a component, which both flavors have in quotes or in braces. -/
def RawAttribute.resolved (a : RawAttribute) : Attribute where
  name := String.ofList a.name
  value := match a.value with
    | .quoted text => .quoted (resolveText text)
    | .braced text => .expression (String.ofList text)

mutual

def Item.page? (flavor : Flavor) : Item → Option Page
  | text characters => some (.text (resolveText characters))
  | element tag attributes content =>
    (attributes.mapM (RawAttribute.facet? flavor)).bind fun facets =>
      (pages? flavor content).map (.element tag facets)
  | component name attributes =>
    some (.component (String.ofList name) (attributes.map RawAttribute.resolved))

def Item.pages? (flavor : Flavor) : List Item → Option (List Page)
  | [] => some []
  | item :: rest =>
    (item.page? flavor).bind fun first => (pages? flavor rest).map (first :: ·)

end

def readPages (flavor : Flavor) (text : String) : Option (List Page) :=
  (read flavor text).bind (Item.pages? flavor)

/-! ## Attributes -/

theorem resolveText_encode {written : EntityTable} (h : EntityTable.references.Resolves written)
    (text : String) : resolveText (written.encode text.toList) = text := by
  rw [resolveText, EntityTable.resolve_encode h, String.ofList_toList]

theorem resolved_raw (a : Attribute) : a.raw.resolved = a := by
  obtain ⟨name, value⟩ := a
  cases value with
  | quoted text =>
    simp only [Attribute.raw, RawAttribute.resolved, String.ofList_toList,
      resolveText_encode EntityTable.resolves_quotedValue]
  | expression text => simp only [Attribute.raw, RawAttribute.resolved, String.ofList_toList]

theorem map_resolved_raw (attributes : List Attribute) :
    (attributes.map Attribute.raw).map RawAttribute.resolved = attributes := by
  rw [List.map_map, show attributes.map (RawAttribute.resolved ∘ Attribute.raw) = attributes.map id
    from List.map_congr_left fun a _ => resolved_raw a, List.map_id]

def classFacets (look : Look) : List Facet :=
  if look.classes.isEmpty then []
  else [.classes (classNames (resolveText (" ".intercalate look.classes).toList))]

def styleFacets (look : Look) : List Facet :=
  if look.declarations.isEmpty then []
  else [.style (look.declarations.map Declaration.shown)]

def titleFacets : Option String → List Facet
  | none => []
  | some title => [.title title]

theorem facets_rawClasses (flavor : Flavor) (look : Look) :
    (look.rawClasses flavor).mapM (RawAttribute.facet? flavor) = some (classFacets look) := by
  unfold Look.rawClasses classFacets
  split
  · rfl
  · cases flavor <;>
      simp [RawAttribute.facet?, RawAttribute.htmlFacet?, RawAttribute.jsxFacet?,
        Flavor.classAttribute]

theorem resolveText_css {declarations : List Declaration} (h : ∀ d ∈ declarations, d.IsBare) :
    resolveText ("".intercalate (declarations.map Declaration.css)).toList =
      "".intercalate (declarations.map Declaration.css) := by
  have hcss : ∀ d ∈ declarations, '&' ∉ d.css.toList := by
    intro d hd
    have hname : '&' ∉ d.property.kebab.toList := by cases d.property <;> decide
    have hvalue : '&' ∉ d.value.toList := h d hd '&' (by decide)
    exact not_mem_append (not_mem_append (not_mem_append hname (by decide)) hvalue) (by decide)
  rw [resolveText, EntityTable.resolve_of_not_mem, String.ofList_toList]
  rw [String.toList_intercalate]
  exact not_mem_intercalate (by decide) (by simpa using hcss)

theorem facet?_htmlStyle (text : List Char) :
    RawAttribute.facet? .html ⟨"style".toList, .quoted text⟩ =
      (readCss (resolveText text).toList).map .style := by
  simp only [RawAttribute.facet?, RawAttribute.htmlFacet?, String.ofList_toList]

theorem facet?_jsxStyle (text : List Char) :
    RawAttribute.facet? .jsx ⟨"style".toList, .braced text⟩ =
      (StyleObject.read text).map .style := by
  simp only [RawAttribute.facet?, RawAttribute.jsxFacet?, String.ofList_toList]

theorem facets_rawStyle (flavor : Flavor) {look : Look} (h : ∀ d ∈ look.declarations, d.IsBare) :
    (look.rawStyle flavor).mapM (RawAttribute.facet? flavor) = some (styleFacets look) := by
  unfold Look.rawStyle styleFacets
  split
  · rfl
  · cases flavor with
    | html =>
      rw [List.mapM_cons, facet?_htmlStyle, resolveText_css h, readCss_css h]
      rfl
    | jsx =>
      rw [List.mapM_cons, facet?_jsxStyle, StyleObject.read_entries h]
      rfl

theorem facets_rawTitle (flavor : Flavor) (title : Option String) :
    (rawTitle title).mapM (RawAttribute.facet? flavor) = some (titleFacets title) := by
  cases title with
  | none => rfl
  | some title =>
    cases flavor <;>
      simp [rawTitle, titleFacets, RawAttribute.facet?, RawAttribute.htmlFacet?,
        RawAttribute.jsxFacet?, resolveText_encode EntityTable.resolves_content]

theorem facets_rawAttributes (flavor : Flavor) {look : Look}
    (h : ∀ d ∈ look.declarations, d.IsBare) (title : Option String) :
    (rawAttributes flavor look title).mapM (RawAttribute.facet? flavor) =
      some (classFacets look ++ styleFacets look ++ titleFacets title) := by
  rw [rawAttributes, List.mapM_append, List.mapM_append, facets_rawClasses, facets_rawStyle flavor h,
    facets_rawTitle]
  rfl

end Reader

/-! ## Trees -/

open Reader

namespace Markup

/-- A reader takes the whole text of a tree, or it fails in either flavor, which it does only if
components need not be named. -/
def IsTaken (named : Prop) (m : Markup) : Prop :=
  m.IsReadable ∨ ¬ named ∧ ∀ flavor o i, run flavor ⟨o, i, .content⟩ (m.render flavor).toList = none

def AllTaken (named : Prop) (content : List Markup) : Prop :=
  AllReadable content ∨
    ¬ named ∧ ∀ flavor o i, run flavor ⟨o, i, .content⟩ (renderAll flavor content).toList = none

variable {named : Prop}

theorem AllTaken.nil : AllTaken named [] := .inl trivial

theorem AllTaken.cons {m : Markup} {rest : List Markup} (hm : m.IsTaken named)
    (hrest : AllTaken named rest) : AllTaken named (m :: rest) := by
  rcases hm with hm | ⟨hnamed, hfails⟩
  · rcases hrest with hrest | ⟨hnamed, hfails⟩
    · exact .inl ⟨hm, hrest⟩
    · refine .inr ⟨hnamed, fun flavor o i => ?_⟩
      rw [renderAll, String.toList_append, run_append_of (run_render m hm o i), hfails]
  · refine .inr ⟨hnamed, fun flavor o i => ?_⟩
    rw [renderAll, String.toList_append, run_append_of_none (hfails flavor o i)]

theorem IsTaken.element {tag : Tag} {look : Look} (hlook : look.IsReadable) (title : Option String)
    {content : List Markup} (h : AllTaken named content) :
    (Markup.element tag look title content).IsTaken named := by
  rcases h with h | ⟨hnamed, hfails⟩
  · exact .inl ⟨hlook, h⟩
  · refine .inr ⟨hnamed, fun flavor o i => ?_⟩
    simp only [render, String.toList_append, List.append_assoc]
    rw [run_append_of (run_openingTag hlook title), run_append_of_none (hfails flavor _ _)]

theorem IsTaken.component {name : String} (hname : ∀ c ∈ name.toList, c.isAlphanum = true)
    (hne : named → name ≠ "") {attributes : List Attribute} (h : ∀ a ∈ attributes, a.IsReadable) :
    (Markup.component name attributes).IsTaken named := by
  by_cases hempty : name = ""
  · subst hempty
    refine .inr ⟨fun hnamed => hne hnamed rfl, fun flavor o i => ?_⟩
    have htext : ∃ rest, (componentTag "" attributes).toList = '<' :: ' ' :: rest := by
      rw [componentTag, intercalate_empty]
      cases attributes with
      | nil => exact ⟨_, rfl⟩
      | cons a more => simp
    obtain ⟨rest, htext⟩ := htext
    rw [render, htext, run_cons_of (t := ⟨o, i, .bracket⟩) rfl]
    rfl
  · exact .inl ⟨⟨by simpa using hempty, hname⟩, h⟩

mutual

/-- What a tree says in every flavor; a text without characters says nothing. -/
def pages : Markup → List Page
  | marker => [.text "\u200B"]
  | text characters => if characters = "" then [] else [.text characters]
  | element tag look title content =>
    [.element tag (classFacets look ++ styleFacets look ++ titleFacets title) (pagesOf content)]
  | component name attributes => [.component name attributes]

def pagesOf : List Markup → List Page
  | [] => []
  | m :: rest => m.pages ++ pagesOf rest

end

/-- A tree is read as the page that it is in both flavors, after whatever came before it. -/
structure ShowsPage (named : Prop) (m : Markup) (page : Page) : Prop where
  taken : m.IsTaken named
  pages : m.pages = [page]
  item : ∀ flavor, ∃ item : Item, item.page? flavor = some page ∧
    ∀ before, m.items flavor before = before ++ [item]

structure ShowsPages (named : Prop) (content : List Markup) : Prop where
  taken : AllTaken named content
  items : ∀ flavor, Item.pages? flavor (allItems flavor [] content) = some (pagesOf content)

theorem ShowsPages.marker : ShowsPages named [.marker] where
  taken := .inl ⟨trivial, trivial⟩
  items flavor := by
    have hne : markerText.toList ≠ [] := by decide
    have htext : resolveText markerText.toList = "\u200B" := by decide
    simp only [allItems, Markup.items, addText_nil hne, Item.pages?, Item.page?, htext]
    rfl

theorem resolves_entities (flavor : Flavor) : EntityTable.references.Resolves flavor.entities := by
  cases flavor with
  | html => exact EntityTable.resolves_content
  | jsx => exact EntityTable.resolves_bracedContent

theorem ShowsPages.text (characters : String) : ShowsPages named [.text characters] where
  taken := .inl ⟨trivial, trivial⟩
  items flavor := by
    simp only [allItems, Markup.items]
    by_cases h : characters = ""
    · subst h
      rfl
    · have hread := resolveText_encode (resolves_entities flavor) characters
      have hne : flavor.entities.encode characters.toList ≠ [] := by
        intro hnil
        rw [hnil] at hread
        exact h hread.symm
      rw [addText_nil hne, pagesOf, pagesOf, List.append_nil, Markup.pages, if_neg h, Item.pages?,
        Item.page?, hread]
      rfl

theorem ShowsPage.element {tag : Tag} {look : Look} (hlook : look.IsReadable)
    (hvalues : ∀ d ∈ look.declarations, d.IsBare) (title : Option String) {content : List Markup}
    (h : ShowsPages named content) :
    ShowsPage named (.element tag look title content)
      (.element tag (classFacets look ++ styleFacets look ++ titleFacets title)
        (pagesOf content)) where
  taken := .element hlook title h.taken
  pages := by rw [Markup.pages]
  item flavor := by
    refine ⟨.element tag (rawAttributes flavor look title) (allItems flavor [] content), ?_,
      fun before => by rw [Markup.items]⟩
    rw [Item.page?, facets_rawAttributes flavor hvalues, h.items]
    rfl

theorem ShowsPage.component {name : String} (hname : ∀ c ∈ name.toList, c.isAlphanum = true)
    (hne : named → name ≠ "") {attributes : List Attribute} (h : ∀ a ∈ attributes, a.IsReadable) :
    ShowsPage named (.component name attributes) (.component name attributes) where
  taken := .component hname hne h
  pages := by rw [Markup.pages]
  item flavor := by
    refine ⟨.component name.toList (attributes.map Attribute.raw), ?_,
      fun before => by rw [Markup.items]⟩
    rw [Item.page?, map_resolved_raw, String.ofList_toList]

theorem pages?_eq_some {flavor : Flavor} {items : List Item} {pages : List Page}
    (h : List.Forall₂ (fun item page => item.page? flavor = some page) items pages) :
    Item.pages? flavor items = some pages := by
  induction h with
  | nil => rfl
  | cons hitem _ ih =>
    rw [Item.pages?, hitem, ih]
    rfl

theorem forall₂_pagesOf {content : List Markup} (h : ∀ m ∈ content, ∃ page, m.ShowsPage named page) :
    List.Forall₂ (ShowsPage named) content (pagesOf content) := by
  induction content with
  | nil => exact .nil
  | cons m rest ih =>
    obtain ⟨⟨page, hpage⟩, hrest⟩ := List.forall_mem_cons.mp h
    rw [pagesOf, hpage.pages]
    exact .cons hpage (ih hrest)

theorem ShowsPages.ofShows {content : List Markup}
    (h : ∀ m ∈ content, ∃ page, m.ShowsPage named page) : ShowsPages named content where
  taken := by
    induction content with
    | nil => exact .nil
    | cons m rest ih =>
      obtain ⟨⟨_, hpage⟩, hrest⟩ := List.forall_mem_cons.mp h
      exact .cons hpage.taken (ih hrest)
  items flavor := by
    obtain ⟨items, hitems, hall⟩ := exists_allItems (fun _ _ hm => hm.item flavor)
      (forall₂_pagesOf h)
    rw [hall, List.nil_append, pages?_eq_some hitems]

theorem ShowsPage.readPages {m : Markup} {page : Page} (h : ShowsPage named m page) :
    (∀ flavor, Reader.readPages flavor (m.render flavor) = some m.pages) ∨
      ¬ named ∧ ∀ flavor, Reader.readPages flavor (m.render flavor) = none := by
  rcases h.taken with hreadable | ⟨hnamed, hfails⟩
  · refine .inl fun flavor => ?_
    obtain ⟨item, hitem, hbefore⟩ := h.item flavor
    rw [Reader.readPages, read_render hreadable, hbefore, List.nil_append, Option.bind_some,
      Item.pages?, hitem, h.pages]
    rfl
  · refine .inr ⟨hnamed, fun flavor => ?_⟩
    rw [Reader.readPages, Reader.read, start, hfails]
    rfl

example :
    Reader.readPages .html
        "<div class=\"a b\" style=\"font-size:3px;\" title=\"&lt;\">\x7b&#8203;</div>" =
      some [.element .div
        [.classes ["a", "b"], .style [⟨"fontSize", "3px"⟩], .title "<"] [.text "\x7b\u200B"]] := by
  cbv

example :
    Reader.readPages .jsx
        "<div className=\"a b\" style=\x7b\x7b fontSize: \"3px\" \x7d\x7d>&#123;</div>" =
      some [.element .div [.classes ["a", "b"], .style [⟨"fontSize", "3px"⟩]] [.text "\x7b"]] := by
  cbv

end Markup

end SceneMarkup
