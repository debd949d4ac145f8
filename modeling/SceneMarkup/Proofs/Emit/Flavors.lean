import SceneMarkup.Proofs.Emit.Attributes
import SceneMarkup.Proofs.Emit.Emission
import SceneMarkup.Proofs.Emit.Looks
import SceneMarkup.Proofs.Emit.Skeleton
import SceneMarkup.Proofs.Markup.Page

/-!
# Both flavors describe the same page

The markup of a node is the same in every flavor (`markup?_withFlavor`), and what is emitted for it
is read as the same page in each (`exists_showsPage`, by induction on the levels that are left): the
declared values delimit nothing in a style attribute or a style object, and texts and titles are
escaped for the flavor that they are read in. Only a component without a name, which no checked
registry has, is read in neither.
-/

namespace SceneMarkup

/-! ## Declared values -/

theorem isLookChar_eq_false : ∀ c ∈ ['"', '\\', ';', ':', '&'], isLookChar c = false := by
  have hall : ['"', '\\', ';', ':', '&'].all (!isLookChar ·) = true := by decide
  intro c hc
  simpa using List.all_eq_true.mp hall c hc

theorem Theme.isBare_frame (theme : Theme) (parent : Option Axis) (f : Frame) :
    ∀ d ∈ (theme.frame parent f).declarations, d.IsBare := fun d hd c hc =>
  theme.not_mem_values_frame (isLookChar_eq_false c hc) parent f d hd

theorem Theme.isBare_text (theme : Theme) (run : TextRun) :
    ∀ d ∈ (theme.text run).declarations, d.IsBare := fun d hd c hc =>
  (theme.lacks_text (isLookChar_eq_false c hc) run).values d hd

theorem Theme.isBare_footprint (theme : Theme) (f : Frame) :
    ∀ d ∈ (theme.footprint f).declarations, d.IsBare := fun d hd c hc =>
  (theme.lacks_footprint (isLookChar_eq_false c hc) f).values d hd

namespace Emitter

def withFlavor (e : Emitter) (flavor : Flavor) : Emitter :=
  { e with options := { e.options with flavor } }

theorem markup?_withFlavor (e : Emitter) (flavor : Flavor) (parent : Option Axis) (levels : Nat)
    (node : Node) :
    (e.withFlavor flavor).markup? parent levels node = e.markup? parent levels node := by
  apply markup?_congr <;> rfl

theorem childAxis?_withFlavor (e : Emitter) (flavor : Flavor) :
    (e.withFlavor flavor).childAxis? = e.childAxis? := rfl

theorem emit_withFlavor (e : Emitter) (flavor : Flavor) (node : Node) (parent : Option Node) :
    (e.withFlavor flavor).emit node parent =
      ((e.markup? (parent.bind e.childAxis?) e.options.maxDepth node).map
        (Markup.render flavor)).getD "" := by
  rw [emit_eq, childAxis?_withFlavor, ← markup?_withFlavor e flavor]
  cases h : (e.withFlavor flavor).markup? (parent.bind e.childAxis?) e.options.maxDepth node with
  | none => exact textAt_of_none h
  | some m => exact textAt_of_some h

/-! ## Pages of nodes -/

open Markup (ShowsPage ShowsPages)

variable {e : Emitter} {parent : Option Axis} {levels : Nat} {named : Prop}

theorem exists_showsPage_emptyBox {look : Look} (hlook : look.IsReadable)
    (hvalues : ∀ d ∈ look.declarations, d.IsBare) (title : String) :
    ∃ page, (emptyBox look title).ShowsPage named page :=
  ⟨_, .element hlook hvalues _ .marker⟩

theorem exists_showsPage_warning (title : String) :
    ∃ page, (emptyBox .warning title).ShowsPage named page :=
  exists_showsPage_emptyBox Look.isReadable_warning (List.forall_mem_nil _) title

theorem exists_showsPage_component (hnamed : named → e.registry.contains "" = false) (name : String)
    {properties : List (String × Property)} (hkeys : ∀ p ∈ properties, UncutName p.1) :
    ∃ page, (e.componentMarkup name properties).ShowsPage named page := by
  unfold componentMarkup
  simp only
  split
  · rename_i hcontains
    refine ⟨_, .component (fun c => isAlphanum_of_mem_normalizeName) ?_
      (isReadable_attributes hkeys)⟩
    intro h hempty
    rw [hempty, hnamed h] at hcontains
    cases hcontains
  · exact ⟨_, .element Look.isReadable_missingComponent (List.forall_mem_nil _) none (.text _)⟩

theorem exists_showsPage_container (hpalette : e.theme.palette.IsQuotable) (f : Frame)
    {content : List Markup} (h : ∀ m ∈ content, ∃ page, m.ShowsPage named page) :
    ∃ page, (e.container parent f content).ShowsPage named page := by
  have hcontent : ShowsPages named (contentOrMarker content) := by
    unfold contentOrMarker
    split
    · exact .marker
    · exact .ofShows h
  exact ⟨_, .element (e.theme.isReadable_frame hpalette parent f)
    (e.theme.isBare_frame parent f) _ hcontent⟩

theorem exists_showsPage (hnamed : named → e.registry.contains "" = false)
    (hpalette : e.theme.palette.IsQuotable) {node : Node} (hkeys : ∀ key ∈ node.keys, UncutName key)
    {m : Markup} (hm : e.markup? parent levels node = some m) :
    ∃ page, m.ShowsPage named page := by
  have hvisible := isVisible_of_markup? hm
  induction levels generalizing node parent m with
  | zero =>
    rw [markup?_limit hvisible] at hm
    cases hm
    exact exists_showsPage_warning _
  | succ levels ih =>
    -- frames and traversed instances alike: the children have one level less, under another axis
    have hcontainer (f : Frame) (children : List Node)
        (h : ∀ key ∈ Node.keysOfAll children, UncutName key) :
        ∃ page, (e.container parent f
          (children.filterMap (e.markup? f.axis levels))).ShowsPage named page := by
      apply exists_showsPage_container hpalette
      intro m hm
      obtain ⟨child, hchild, hm⟩ := List.mem_filterMap.mp hm
      exact ih (fun key hkey => h key (Node.mem_keysOfAll hchild hkey)) hm (isVisible_of_markup? hm)
    cases node with
    | frame f children =>
      rw [markup?_frame hvisible] at hm
      cases hm
      exact hcontainer f children hkeys
    | text run =>
      rw [markup?_text hvisible] at hm
      cases hm
      exact ⟨_, .element (e.theme.isReadable_text run) (e.theme.isBare_text run) none (.text _)⟩
    | component f children properties =>
      obtain ⟨hproperties, hchildren⟩ := List.forall_mem_append.mp hkeys
      rw [markup?_component hvisible] at hm
      cases hm
      cases e.options.instances with
      | registry => exact exists_showsPage_component hnamed f.name (by simpa using hproperties)
      | placeholder =>
        exact exists_showsPage_emptyBox (e.theme.isReadable_footprint f)
          (e.theme.isBare_footprint f) _
      | traverse => exact hcontainer f children hchildren
    | unknown u =>
      rw [markup?_unknown hvisible] at hm
      cases hm
      exact exists_showsPage_warning _

/-- **Both flavors describe the same page**: an HTML reader of the one and a JSX reader of the other
find the same elements with the same classes, styles and titles, the same components with the same
attributes and the same texts. Unless a component without a name is registered, they do find them,
and it is what the markup of the node is that they find. -/
theorem readPages_emit_withFlavor (e : Emitter) (hpalette : e.theme.palette.IsQuotable) (node : Node)
    (hkeys : ∀ key ∈ node.keys, ∀ c ∈ key.toList, c ∉ Reader.delimiters) (parent : Option Node) :
    Reader.readPages .html ((e.withFlavor .html).emit node parent) =
      Reader.readPages .jsx ((e.withFlavor .jsx).emit node parent) ∧
    (e.registry.contains "" = false → ∀ flavor,
      Reader.readPages flavor ((e.withFlavor flavor).emit node parent) =
        some ((e.markup? (parent.bind e.childAxis?) e.options.maxDepth node).elim [] Markup.pages)) := by
  simp only [emit_withFlavor]
  cases hm : e.markup? (parent.bind e.childAxis?) e.options.maxDepth node with
  | none => exact ⟨rfl, fun _ flavor => by cases flavor <;> rfl⟩
  | some m =>
    have hshown : ∃ page, m.ShowsPage (e.registry.contains "" = false) page :=
      exists_showsPage id hpalette (fun key hkey => uncutName_of_uncut (hkeys key hkey)) hm
    obtain ⟨page, hpage⟩ := hshown
    rcases hpage.readPages with hread | ⟨hnamed, hread⟩
    · exact ⟨(hread .html).trans (hread .jsx).symm, fun _ flavor => hread flavor⟩
    · exact ⟨(hread .html).trans (hread .jsx).symm, fun h => absurd h hnamed⟩

/-- A frame of a fixed width and a colour that no class says, its title in quotes, with braces in its
text and a component with a property. -/
def card : Node :=
  .frame
    { Frame.named "\"Card\"" with
      horizontal := some .fixed, width := some 333, fills := [⟨"SOLID", true, some ⟨1, 0, 0⟩⟩] }
    [.text (.reading "\x7b&amp;\x7d"),
      .component (.named "Button") [] [("label#1:2", ⟨.text, .string "a\"b"⟩)]]

theorem readPages_emit_withFlavor_card :
    ∃ page,
      Reader.readPages .html
        (((ofRegistry (.register .empty ⟨"Button", []⟩)).withFlavor .html).emit card none) =
          some [page] ∧
      Reader.readPages .jsx
        (((ofRegistry (.register .empty ⟨"Button", []⟩)).withFlavor .jsx).emit card none) =
          some [page] := by
  have hkeys : card.keys.all (fun key => key.toList.all fun c => c ∉ Reader.delimiters) = true := by
    decide
  simp only [List.all_eq_true, decide_eq_true_eq] at hkeys
  obtain ⟨hsame, hread⟩ :=
    readPages_emit_withFlavor (ofRegistry (.register .empty ⟨"Button", []⟩)) (by decide) card hkeys
      none
  have hpage := hread (by decide) .html
  exact ⟨_, hpage, hsame.symm.trans hpage⟩

end Emitter

end SceneMarkup
