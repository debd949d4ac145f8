import SceneMarkup.Proofs.Emit.Indentation
import SceneMarkup.Proofs.Emit.Levels

/-!
# What a parent shows in its child

The parent of the root hands it the axis that it is laid out along, and nothing else. Below the root
each container hands on its own axis, so the parent shows in the tag that opens the root alone
(`emit_parent`), and there only if the root fills its parent along one of its axes (`FillsParent`).
-/

namespace SceneMarkup

open Markup (Unbracketed)

/-- Texts that are the same, but perhaps for the attributes of a tag that both begin with. The first
bracket after its name ends the tag. -/
def SameAfterTag (a b : String) : Prop :=
  a = b ∨ ∃ attributes attributes' rest : String,
    Unbracketed attributes.toList ∧ Unbracketed attributes'.toList ∧
      a = "<div" ++ attributes ++ ">" ++ rest ∧ b = "<div" ++ attributes' ++ ">" ++ rest

theorem Markup.exists_openingTag_div {look : Look} (h : look.IsUnbracketed) (flavor : Flavor)
    (title : Option String) :
    ∃ attributes : String, Unbracketed attributes.toList ∧
      openingTag flavor .div look title = "<div" ++ attributes ++ ">" := by
  refine ⟨look.classText flavor ++ look.styleText flavor ++ titleText title, ?_, ?_⟩
  · exact unbracketed_append
      (unbracketed_append (isTail_classText h flavor).unbracketed
        (isTail_styleText h flavor).unbracketed)
      (isTail_titleText title).unbracketed
  · simp only [openingTag, Tag.name, String.append_assoc]
    rfl

/-! ## Sizing -/

theorem Theme.sizing_congr (theme : Theme) (parent other : Option Axis) (dimension : Dimension)
    {sizing : Option Sizing} (h : sizing ≠ some .fill) (px : Option Float) :
    theme.sizing parent dimension sizing px = theme.sizing other dimension sizing px := by
  cases sizing with
  | none => rfl
  | some sizing =>
    cases sizing with
    | fill => exact absurd rfl h
    | hug => rfl
    | fixed => rfl

theorem Theme.frame_congr (theme : Theme) (parent other : Option Axis) {f : Frame}
    (hwidth : f.horizontal ≠ some .fill) (hheight : f.vertical ≠ some .fill) :
    theme.frame parent f = theme.frame other f := by
  rw [Theme.frame, Theme.frame, theme.sizing_congr parent other .width hwidth,
    theme.sizing_congr parent other .height hheight]

namespace Emitter

variable {e : Emitter} {node : Node}

theorem markup?_of_not_container (h : e.container? node = none) (parent other : Option Axis)
    (levels : Nat) : e.markup? parent levels node = e.markup? other levels node := by
  refine markup?_congr_visible rfl fun hvisible _ => ?_
  cases levels with
  | zero => rw [markup?_limit hvisible, markup?_limit hvisible]
  | succ levels =>
    cases node with
    | frame f children => cases h
    | text run => rw [markup?_text hvisible, markup?_text hvisible]
    | component f children properties =>
      rw [markup?_component hvisible, markup?_component hvisible]
      cases hmode : e.options.instances with
      | registry => rfl
      | placeholder => rfl
      | traverse => simp [container?, hmode] at h
    | unknown u => rw [markup?_unknown hvisible, markup?_unknown hvisible]

/-- A node is emitted as a container above the depth limit, and fills its parent along an axis. -/
structure FillsParent (e : Emitter) (node : Node) : Prop where
  isVisible : node.isVisible = true
  aboveLimit : 0 < e.options.maxDepth
  fills : ∃ f children, e.container? node = some (f, children) ∧
    (f.horizontal = some .fill ∨ f.vertical = some .fill)

theorem textAt_of_not_fillsParent (h : ¬ e.FillsParent node) (parent other : Option Axis) :
    e.textAt parent e.options.maxDepth node = e.textAt other e.options.maxDepth node := by
  cases hcontainer : e.container? node with
  | none => rw [textAt, textAt, markup?_of_not_container hcontainer parent other]
  | some container =>
    obtain ⟨f, children⟩ := container
    cases hvisible : node.isVisible with
    | false =>
      rw [textAt_of_none (markup?_hidden hvisible), textAt_of_none (markup?_hidden hvisible)]
    | true =>
      cases hlimit : e.options.maxDepth with
      | zero => rw [textAt, textAt, markup?_limit hvisible, markup?_limit hvisible]
      | succ levels =>
        have hfills : ¬ (f.horizontal = some .fill ∨ f.vertical = some .fill) := fun hfills =>
          h ⟨hvisible, by omega, f, children, hcontainer, hfills⟩
        obtain ⟨hwidth, hheight⟩ := not_or.mp hfills
        rw [textAt_container hcontainer hvisible, textAt_container hcontainer hvisible,
          e.theme.frame_congr parent other hwidth hheight]

theorem sameAfterTag_textAt (h : e.theme.palette.IsUnbracketed) (parent other : Option Axis)
    (levels : Nat) (node : Node) :
    SameAfterTag (e.textAt parent levels node) (e.textAt other levels node) := by
  cases hvisible : node.isVisible with
  | false =>
    rw [textAt_of_none (markup?_hidden hvisible), textAt_of_none (markup?_hidden hvisible)]
    exact .inl rfl
  | true =>
    cases levels with
    | zero =>
      rw [textAt, textAt, markup?_limit hvisible, markup?_limit hvisible]
      exact .inl rfl
    | succ levels =>
      cases hcontainer : e.container? node with
      | none =>
        rw [textAt, textAt, markup?_of_not_container hcontainer parent other]
        exact .inl rfl
      | some container =>
        -- the children are handed the axis of the frame, whatever the parent of the frame is
        obtain ⟨f, children⟩ := container
        obtain ⟨attributes, hattributes, htag⟩ := Markup.exists_openingTag_div
          (Theme.isUnbracketed_frame h parent f) e.options.flavor f.name
        obtain ⟨attributes', hattributes', htag'⟩ := Markup.exists_openingTag_div
          (Theme.isUnbracketed_frame h other f) e.options.flavor f.name
        rw [textAt_container hcontainer hvisible, textAt_container hcontainer hvisible, htag, htag']
        refine .inr ⟨attributes, attributes',
          orMarker (String.join (children.map (e.textAt f.axis levels))) ++ Markup.closingTag .div,
          hattributes, hattributes', ?_, ?_⟩
        · exact String.append_assoc ..
        · exact String.append_assoc ..

/-- **The parent reaches the size of the root alone**: with any two parents, or none, the texts of a
node differ in the tag that opens its root at most; and they are the same if the parents hand on the
same axis, or if the root is no container above the depth limit that fills one of its axes. -/
theorem emit_parent (e : Emitter) (h : e.theme.palette.IsUnbracketed) (node : Node)
    (parent other : Option Node) :
    SameAfterTag (e.emit node parent) (e.emit node other) ∧
    (parent.bind e.childAxis? = other.bind e.childAxis? →
      e.emit node parent = e.emit node other) ∧
    (¬ e.FillsParent node → e.emit node parent = e.emit node other) := by
  refine ⟨?_, fun haxis => ?_, fun hfills => ?_⟩
  · rw [emit_eq, emit_eq]
    exact sameAfterTag_textAt h _ _ _ node
  · rw [emit_eq, emit_eq, haxis]
  · rw [emit_eq, emit_eq]
    exact textAt_of_not_fillsParent hfills _ _

/-- A frame that fills the width of its parent, in a row, in a column and in another row; and a
text. -/
theorem emit_parent_grow :
    SameAfterTag "<div class=\"flex-nowrap flex-1\" title=\"grow\"><span>a</span></div>"
      "<div class=\"flex-nowrap w-full\" title=\"grow\"><span>a</span></div>" ∧
    (ofRegistry .empty).emit
        (.frame { Frame.named "grow" with horizontal := some .fill } [.text (.reading "a")])
        (some (.frame { Frame.named "row" with axis := some .horizontal } [])) =
      (ofRegistry .empty).emit
        (.frame { Frame.named "grow" with horizontal := some .fill } [.text (.reading "a")])
        (some (.frame { Frame.named "long row" with axis := some .horizontal } [])) ∧
    (ofRegistry .empty).emit (.text (.reading "a"))
        (some (.frame { Frame.named "row" with axis := some .horizontal } [])) =
      (ofRegistry .empty).emit (.text (.reading "a")) none := by
  have hpalette : (ofRegistry .empty).theme.palette.IsUnbracketed := ⟨by decide, by decide⟩
  have htag := (emit_parent (ofRegistry .empty) hpalette
    (.frame { Frame.named "grow" with horizontal := some .fill } [.text (.reading "a")])
    (some (.frame { Frame.named "row" with axis := some .horizontal } []))
    (some (.frame { Frame.named "column" with axis := some .vertical } []))).1
  have htext : ¬ (ofRegistry .empty).FillsParent (.text (.reading "a")) := by
    rintro ⟨-, -, f, children, hcontainer, -⟩
    cases hcontainer
  refine ⟨?_, ?_, ?_⟩
  · rwa [show (ofRegistry .empty).emit _ _ =
        "<div class=\"flex-nowrap flex-1\" title=\"grow\"><span>a</span></div>" by decide +kernel,
      show (ofRegistry .empty).emit _ _ =
        "<div class=\"flex-nowrap w-full\" title=\"grow\"><span>a</span></div>" by decide +kernel]
      at htag
  · exact (emit_parent (ofRegistry .empty) hpalette _ _ _).2.1 rfl
  · exact (emit_parent (ofRegistry .empty) hpalette _ _ _).2.2 htext

end Emitter

end SceneMarkup
