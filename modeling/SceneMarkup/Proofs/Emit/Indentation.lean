import SceneMarkup.Proofs.Emit.Elements
import SceneMarkup.Proofs.Emit.Emission
import SceneMarkup.Proofs.Registry.Checked

/-!
# Emitted markup is indented by its nesting

What is emitted for a node is a block (`isBlock_of_markup?`, by induction on the levels that are
left), unless an attribute of a component is written with a bracket. So every line of the printed
text is indented by four spaces for each element that is open before it (`indent_emit`).
-/

namespace SceneMarkup

open Markup (IsBlock Unbracketed)

namespace Markup

mutual

def attributes : Markup → List Attribute
  | marker | text _ => []
  | element _ _ _ content => attributesOfAll content
  | component _ attributes => attributes

def attributesOfAll : List Markup → List Attribute
  | [] => []
  | m :: rest => m.attributes ++ attributesOfAll rest

end

theorem mem_attributesOfAll {m : Markup} {content : List Markup} (hm : m ∈ content)
    {a : Attribute} (ha : a ∈ m.attributes) : a ∈ attributesOfAll content := by
  induction hm with
  | head rest => exact List.mem_append_left _ ha
  | tail other _ ih => exact List.mem_append_right _ ih

end Markup

/-! ## Looks -/

structure Palette.IsUnbracketed (p : Palette) : Prop where
  opening : p.Lacks '<'
  closing : p.Lacks '>'

theorem Theme.isUnbracketed_frame {theme : Theme} (h : theme.palette.IsUnbracketed)
    (parent : Option Axis) (f : Frame) : (theme.frame parent f).IsUnbracketed :=
  ⟨Theme.lacks_frame (by decide) h.opening parent f,
    Theme.lacks_frame (by decide) h.closing parent f⟩

theorem Theme.isUnbracketed_text (theme : Theme) (run : TextRun) :
    (theme.text run).IsUnbracketed :=
  ⟨theme.lacks_text (by decide) run, theme.lacks_text (by decide) run⟩

theorem Theme.isUnbracketed_footprint (theme : Theme) (f : Frame) :
    (theme.footprint f).IsUnbracketed :=
  ⟨theme.lacks_footprint (by decide) f, theme.lacks_footprint (by decide) f⟩

theorem Look.isUnbracketed_warning : Look.warning.IsUnbracketed :=
  ⟨Look.lacks_warning (by decide), Look.lacks_warning (by decide)⟩

theorem Look.isUnbracketed_missingComponent : Look.missingComponent.IsUnbracketed :=
  ⟨Look.lacks_missingComponent (by decide), Look.lacks_missingComponent (by decide)⟩

/-! ## Nodes -/

namespace Emitter

variable {e : Emitter} {flavor : Flavor} {parent : Option Axis} {levels : Nat} {node : Node}

theorem isBlock_emptyBox {look : Look} (h : look.IsUnbracketed) (title : String) :
    IsBlock ((emptyBox look title).render flavor).toList := Markup.isBlock_marker h .div title

theorem isBlock_componentMarkup (name : String) {properties : List (String × Property)}
    (h : ∀ a ∈ (e.componentMarkup name properties).attributes, Unbracketed a.render.toList) :
    IsBlock ((e.componentMarkup name properties).render flavor).toList := by
  unfold componentMarkup at h ⊢
  simp only at h ⊢
  split at h
  · rename_i hcontains
    rw [if_pos hcontains]
    exact Markup.isBlock_component (fun c => isAlphanum_of_mem_normalizeName) h
  · rename_i hcontains
    rw [if_neg hcontains]
    exact Markup.isBlock_text Look.isUnbracketed_missingComponent .div none _

theorem isBlock_container (h : e.theme.palette.IsUnbracketed) (parent : Option Axis) (f : Frame)
    {content : List Markup}
    (hattributes : ∀ a ∈ (e.container parent f content).attributes, Unbracketed a.render.toList)
    (hcontent : ∀ m ∈ content, (∀ a ∈ m.attributes, Unbracketed a.render.toList) →
      IsBlock (m.render flavor).toList) :
    IsBlock ((e.container parent f content).render flavor).toList := by
  have hlook := Theme.isUnbracketed_frame h parent f
  unfold container contentOrMarker at hattributes ⊢
  cases content with
  | nil => exact Markup.isBlock_marker hlook .div f.name
  | cons first rest =>
    refine Markup.isBlock_element hlook .div f.name fun m hm => hcontent m hm fun a ha => ?_
    exact hattributes a (Markup.mem_attributesOfAll hm ha)

/-- What is emitted for a node is a block if its attributes are written without brackets. -/
theorem isBlock_of_markup? (h : e.theme.palette.IsUnbracketed) {m : Markup}
    (hm : e.markup? parent levels node = some m)
    (hattributes : ∀ a ∈ m.attributes, Unbracketed a.render.toList) :
    IsBlock (m.render flavor).toList := by
  induction levels generalizing node parent m with
  | zero =>
    have hvisible := isVisible_of_markup? hm
    rw [markup?_limit hvisible] at hm
    cases hm
    exact isBlock_emptyBox Look.isUnbracketed_warning _
  | succ levels ih =>
    have hvisible := isVisible_of_markup? hm
    -- frames and traversed instances alike: the children have one level less, under another axis
    have hcontainer (f : Frame) (children : List Node)
        (hattributes : ∀ a ∈ (e.container parent f
          (children.filterMap (e.markup? f.axis levels))).attributes, Unbracketed a.render.toList) :
        IsBlock ((e.container parent f
          (children.filterMap (e.markup? f.axis levels))).render flavor).toList := by
      refine isBlock_container h parent f hattributes fun m hm => ?_
      obtain ⟨child, -, hchild⟩ := List.mem_filterMap.mp hm
      exact ih hchild
    cases node with
    | frame f children =>
      rw [markup?_frame hvisible] at hm
      cases hm
      exact hcontainer f children hattributes
    | text run =>
      rw [markup?_text hvisible] at hm
      cases hm
      exact Markup.isBlock_text (e.theme.isUnbracketed_text run) .span none _
    | component f children properties =>
      rw [markup?_component hvisible] at hm
      cases hm
      revert hattributes
      cases e.options.instances with
      | registry => exact isBlock_componentMarkup f.name
      | placeholder => exact fun _ => isBlock_emptyBox (e.theme.isUnbracketed_footprint f) _
      | traverse => exact hcontainer f children
    | unknown u =>
      rw [markup?_unknown hvisible] at hm
      cases hm
      exact isBlock_emptyBox Look.isUnbracketed_warning _

def writtenAttributes (e : Emitter) (node : Node) (parent : Option Node) : List Attribute :=
  match e.markup? (parent.bind e.childAxis?) e.options.maxDepth node with
  | none => []
  | some m => m.attributes

theorem tracksAll_emit (h : e.theme.palette.IsUnbracketed) {node : Node} {parent : Option Node}
    (hattributes : ∀ a ∈ e.writtenAttributes node parent, Unbracketed a.render.toList) :
    Markup.TracksAll [] (Markup.pieces (e.emit node parent).toList) [] := by
  rw [emit_eq]
  cases hm : e.markup? (parent.bind e.childAxis?) e.options.maxDepth node with
  | none =>
    rw [textAt_of_none hm]
    exact .single ⟨rfl, rfl, nofun⟩
  | some m =>
    rw [writtenAttributes, hm] at hattributes
    rw [textAt_of_some hm]
    exact (isBlock_of_markup? h hm hattributes).tracked []

/-- **Indentation is nesting**: if no attribute is written with a bracket, the lines of the printed
text are the pieces of what is emitted, each indented by four spaces for every element that is open
before it. Levels are never lowered below zero, and the last line leaves nothing open. -/
theorem indent_emit (e : Emitter) (h : e.theme.palette.IsUnbracketed) (node : Node)
    (parent : Option Node)
    (hattributes : ∀ a ∈ e.writtenAttributes node parent, Unbracketed a.render.toList) :
    ∃ lines : List (Nat × List Char),
      (Markup.indent (e.emit node parent)).toList = Markup.layOut lines ∧
      lines.map Prod.snd = Markup.pieces (e.emit node parent).toList ∧
      (∀ before level line after, lines = before ++ (level, line) :: after →
        Markup.IsNested (before.flatMap Prod.snd) line level ∧
        (Markup.startsClosing line = true →
          0 < (before.map Prod.snd).foldl Markup.levelAfter 0)) ∧
      (lines.map Prod.snd).foldl Markup.levelAfter 0 = 0 := by
  have htracked := tracksAll_emit h hattributes
  have hlines : (Markup.printed (e.emit node parent)).map Prod.snd =
      Markup.pieces (e.emit node parent).toList := Markup.map_leveled 0 _
  refine ⟨Markup.printed (e.emit node parent), Markup.toList_indent _, hlines,
    fun before level line after heq => htracked.isNested heq, ?_⟩
  rw [hlines]
  exact htracked.level

/-- A page with an empty text and a button. -/
theorem indent_emit_page :
    ∃ lines : List (Nat × List Char),
      ("<div class=\"flex-nowrap\" title=\"\">\n" ++
        "    <span>\n" ++
        "    </span>\n" ++
        "    <Button label=\"Go\" />\n" ++
        "</div>").toList = Markup.layOut lines ∧
      lines.map Prod.snd = Markup.pieces ((ofRegistry (.register .empty ⟨"Button", []⟩)).emit
        (.frame (.named "") [.text (.reading ""),
          .component (.named "Button") [] [("Label", ⟨.text, .string "Go"⟩)]])
        none).toList ∧
      (∀ before level line after, lines = before ++ (level, line) :: after →
        Markup.IsNested (before.flatMap Prod.snd) line level ∧
        (Markup.startsClosing line = true →
          0 < (before.map Prod.snd).foldl Markup.levelAfter 0)) ∧
      (lines.map Prod.snd).foldl Markup.levelAfter 0 = 0 := by
  obtain ⟨lines, hlayout, hpieces, hlines⟩ :=
    indent_emit (ofRegistry (.register .empty ⟨"Button", []⟩)) ⟨by decide, by decide⟩
      (.frame (.named "") [.text (.reading ""),
        .component (.named "Button") [] [("Label", ⟨.text, .string "Go"⟩)]])
      none (by decide +kernel)
  refine ⟨lines, ?_, hpieces, hlines⟩
  rw [← hlayout]
  decide +kernel

end Emitter

end SceneMarkup
