import Mathlib.Data.List.Forall2
import SceneMarkup.Proofs.Markup.Reading
import SceneMarkup.Proofs.Text.Entities

/-!
# Skeletons of pages

A skeleton is what a page says once the looks are left out: boxes with their decoded titles, decoded
texts, markers, and component tags with their decoded attributes. `Reader.readSkeleton` reads one
from a markup text; `Shows` relates the trees that a skeleton is read back from.
-/

namespace SceneMarkup

inductive Skeleton where
  | marker
  | text (characters : String)
  | box (tag : Tag) (title : Option String) (content : List Skeleton)
  | component (name : String) (attributes : List Attribute)
  deriving Repr

namespace Reader

/-- The character references of all flavors. -/
def decodeText (text : List Char) : Option String :=
  (EntityTable.bracedContent.decode text).map String.ofList

def RawAttribute.attribute? (a : RawAttribute) : Option Attribute :=
  match a.value with
  | .quoted text => (decodeText text).map fun value => ⟨String.ofList a.name, .quoted value⟩
  | .braced text => some ⟨String.ofList a.name, .expression (String.ofList text)⟩

def titleOf? (attributes : List RawAttribute) : Option (Option String) :=
  match attributes.find? (·.name == "title".toList) with
  | none => some none
  | some ⟨_, .quoted text⟩ => (decodeText text).map some
  | some ⟨_, .braced _⟩ => none

mutual

def Item.skeleton? : Item → Option Skeleton
  | text characters =>
    if characters = Markup.markerText.toList then some .marker
    else (decodeText characters).map .text
  | element tag attributes content =>
    (titleOf? attributes).bind fun title =>
      (skeletons? content).map fun content => .box tag title content
  | component name attributes =>
    (attributes.mapM RawAttribute.attribute?).map (.component (String.ofList name))

def Item.skeletons? : List Item → Option (List Skeleton)
  | [] => some []
  | item :: rest =>
    item.skeleton?.bind fun first => (skeletons? rest).map (first :: ·)

end

def readSkeleton (flavor : Flavor) (text : String) : Option Skeleton :=
  match read flavor text with
  | some [item] => item.skeleton?
  | _ => none

/-! ## Attributes and texts -/

theorem decodeText_encode {written : EntityTable} (h : EntityTable.bracedContent.Reads written)
    (text : String) : decodeText (written.encode text.toList) = some text := by
  rw [decodeText, EntityTable.decode_encode h, Option.map_some, String.ofList_toList]

theorem attribute?_raw (a : Attribute) : a.raw.attribute? = some a := by
  obtain ⟨name, value⟩ := a
  cases value with
  | quoted text =>
    simp only [Attribute.raw, RawAttribute.attribute?, String.ofList_toList,
      decodeText_encode EntityTable.reads_quotedValue, Option.map_some]
  | expression text =>
    simp only [Attribute.raw, RawAttribute.attribute?, String.ofList_toList]

theorem mapM_attribute?_raw (attributes : List Attribute) :
    (attributes.map Attribute.raw).mapM RawAttribute.attribute? = some attributes := by
  induction attributes with
  | nil => rfl
  | cons a rest ih => simp [List.mapM_cons, attribute?_raw, ih]

theorem titleOf?_rawTitle (title : Option String) : titleOf? (rawTitle title) = some title := by
  cases title with
  | none => rfl
  | some title =>
    simp only [rawTitle, titleOf?, List.find?_cons, beq_self_eq_true,
      decodeText_encode EntityTable.reads_content, Option.map_some]

theorem titleOf?_append {attributes : List RawAttribute}
    (h : ∀ a ∈ attributes, a.name ≠ "title".toList) (more : List RawAttribute) :
    titleOf? (attributes ++ more) = titleOf? more := by
  have hfind : attributes.find? (·.name == "title".toList) = none :=
    List.find?_eq_none.mpr fun a ha => by simpa using h a ha
  rw [titleOf?, List.find?_append, hfind, Option.none_or, titleOf?]

theorem titleOf?_rawAttributes (flavor : Flavor) (look : Look) (title : Option String) :
    titleOf? (rawAttributes flavor look title) = some title := by
  have hclasses : ∀ a ∈ look.rawClasses flavor, a.name ≠ "title".toList := by
    unfold Look.rawClasses
    split
    · exact List.forall_mem_nil _
    · cases flavor <;> simp [Flavor.classAttribute]
  have hstyle : ∀ a ∈ look.rawStyle flavor, a.name ≠ "title".toList := by
    unfold Look.rawStyle
    split
    · exact List.forall_mem_nil _
    · cases flavor <;> simp
  rw [rawAttributes, titleOf?_append (List.forall_mem_append.mpr ⟨hclasses, hstyle⟩),
    titleOf?_rawTitle]

theorem reads_entities (flavor : Flavor) : EntityTable.bracedContent.Reads flavor.entities := by
  cases flavor with
  | html => exact EntityTable.reads_content
  | jsx => exact EntityTable.reads_bracedContent

theorem encode_ne_marker (flavor : Flavor) (text : List Char) :
    flavor.entities.encode text ≠ Markup.markerText.toList := by
  intro h
  have hread := EntityTable.decode_encode (reads_entities flavor) text
  rw [h] at hread
  cases hread

end Reader

/-! ## Trees -/

open Reader

/-- A tree is read as a skeleton, after whatever came before it. -/
structure Markup.Shows (flavor : Flavor) (m : Markup) (s : Skeleton) : Prop where
  readable : m.IsReadable
  item : ∃ item : Item, item.skeleton? = some s ∧ ∀ before, m.items flavor before = before ++ [item]

structure Markup.ShowsAll (flavor : Flavor) (content : List Markup) (skeletons : List Skeleton) :
    Prop where
  readable : AllReadable content
  items : Item.skeletons? (allItems flavor [] content) = some skeletons

namespace Markup

variable {flavor : Flavor}

theorem ShowsAll.marker : ShowsAll flavor [.marker] [.marker] where
  readable := ⟨trivial, trivial⟩
  items := by
    have hne : markerText.toList ≠ [] := by decide
    simp [allItems, Markup.items, addText_nil hne, Item.skeletons?, Item.skeleton?]

/-- The skeletons of a text: none if it is empty. -/
def textSkeletons (characters : String) : List Skeleton :=
  if characters = "" then [] else [.text characters]

theorem ShowsAll.text (characters : String) :
    ShowsAll flavor [.text characters] (textSkeletons characters) where
  readable := ⟨trivial, trivial⟩
  items := by
    simp only [allItems, Markup.items]
    by_cases h : characters = ""
    · subst h
      rfl
    · have hne : flavor.entities.encode characters.toList ≠ [] := fun hnil => by
        have hread := decodeText_encode (reads_entities flavor) characters
        rw [hnil] at hread
        exact h (Option.some.inj hread).symm
      rw [addText_nil hne, textSkeletons, if_neg h, Item.skeletons?, Item.skeleton?,
        if_neg (encode_ne_marker flavor _), decodeText_encode (reads_entities flavor)]
      rfl

theorem Shows.element {tag : Tag} {look : Look} (hlook : look.IsReadable) (title : Option String)
    {content : List Markup} {skeletons : List Skeleton} (h : ShowsAll flavor content skeletons) :
    Shows flavor (.element tag look title content) (.box tag title skeletons) where
  readable := ⟨hlook, h.readable⟩
  item := by
    refine ⟨.element tag (rawAttributes flavor look title) (allItems flavor [] content), ?_,
      fun before => by rw [Markup.items]⟩
    rw [Item.skeleton?, titleOf?_rawAttributes, h.items]
    rfl

theorem Shows.component {name : String} (hname : IsTagName name.toList)
    {attributes : List Attribute} (h : ∀ a ∈ attributes, a.IsReadable) :
    Shows flavor (.component name attributes) (.component name attributes) where
  readable := ⟨hname, h⟩
  item := by
    refine ⟨.component name.toList (attributes.map Attribute.raw), ?_,
      fun before => by rw [Markup.items]⟩
    rw [Item.skeleton?, mapM_attribute?_raw, String.ofList_toList]
    rfl

theorem skeletons?_eq_some {items : List Item} {skeletons : List Skeleton}
    (h : List.Forall₂ (fun item s => item.skeleton? = some s) items skeletons) :
    Item.skeletons? items = some skeletons := by
  induction h with
  | nil => rfl
  | cons hitem _ ih =>
    rw [Item.skeletons?, hitem, ih]
    rfl

/-- Trees that are each read as one item are read one after the other: an item never runs into the
one before it, as a text would. -/
theorem exists_allItems {α : Type} {R : Markup → α → Prop} {φ : Item → Option α}
    (hR : ∀ m a, R m a → ∃ item, φ item = some a ∧
      ∀ before, m.items flavor before = before ++ [item])
    {content : List Markup} {as : List α} (h : List.Forall₂ R content as) :
    ∃ items, List.Forall₂ (fun item a => φ item = some a) items as ∧
      ∀ before, allItems flavor before content = before ++ items := by
  induction h with
  | nil => exact ⟨[], .nil, fun before => by rw [allItems, List.append_nil]⟩
  | cons hm _ ih =>
    obtain ⟨item, hitem, hbefore⟩ := hR _ _ hm
    obtain ⟨items, hrest, hall⟩ := ih
    refine ⟨item :: items, .cons hitem hrest, fun before => ?_⟩
    rw [allItems, hbefore, hall, List.append_assoc, List.singleton_append]

theorem ShowsAll.ofShows {content : List Markup} {skeletons : List Skeleton}
    (h : List.Forall₂ (Shows flavor) content skeletons) : ShowsAll flavor content skeletons where
  readable := by
    induction h with
    | nil => trivial
    | cons hm _ ih => exact ⟨hm.readable, ih⟩
  items := by
    obtain ⟨items, hskeletons, hall⟩ := exists_allItems (fun _ _ hm => hm.item) h
    rw [hall, List.nil_append, skeletons?_eq_some hskeletons]

theorem Shows.readSkeleton {m : Markup} {s : Skeleton} (h : Shows flavor m s) :
    Reader.readSkeleton flavor (m.render flavor) = some s := by
  obtain ⟨item, hitem, hbefore⟩ := h.item
  rw [Reader.readSkeleton, read_render h.readable, hbefore]
  exact hitem

end Markup

end SceneMarkup
