import SceneMarkup.Proofs.Emit.Emission

/-!
# Emission one level further down

A container is its opening tag, its children as they are emitted by themselves with the container as
their parent and one level less to go, and its closing tag (`emit_container`). The axis that a
container hands to its children is the one that it has as an explicit parent, and what is emitted
depends on the levels that are left, not on the depth that has been reached.
-/

namespace SceneMarkup.Emitter

def withLimit (e : Emitter) (limit : Nat) : Emitter :=
  { e with options := { e.options with maxDepth := limit } }

theorem markup?_withLimit (e : Emitter) (limit : Nat) :
    (e.withLimit limit).markup? = e.markup? := by
  funext parent levels node
  apply markup?_congr <;> rfl

theorem childAxis?_withLimit (e : Emitter) (limit : Nat) :
    (e.withLimit limit).childAxis? = e.childAxis? := by
  funext node
  cases node <;> rfl

theorem emit_withLimit (e : Emitter) (limit : Nat) (node : Node) (parent : Option Node) :
    (e.withLimit limit).emit node parent =
      e.textAt (parent.bind e.childAxis?) limit node := by
  rw [emit_eq, textAt, markup?_withLimit, childAxis?_withLimit]
  rfl

/-- The frame and the children of a node that is emitted as a container: a frame, or an instance if
instances are traversed. -/
def container? (e : Emitter) : Node → Option (Frame × List Node)
  | .frame f children => some (f, children)
  | .component f children _ =>
    if e.options.instances = .traverse then some (f, children) else none
  | .text _ | .unknown _ => none

theorem childAxis?_of_container? {e : Emitter} {node : Node} {f : Frame} {children : List Node}
    (h : e.container? node = some (f, children)) : e.childAxis? node = f.axis := by
  cases node with
  | frame g cs => cases h; rfl
  | text run => cases h
  | component g cs properties =>
    simp only [container?, Option.ite_none_right_eq_some] at h
    obtain ⟨htraverse, hfields⟩ := h
    cases hfields
    simp only [childAxis?, htraverse, if_true]
  | unknown u => cases h

theorem markup?_container {e : Emitter} {node : Node} {f : Frame} {children : List Node}
    (h : e.container? node = some (f, children)) (hvisible : node.isVisible = true)
    (parent : Option Axis) (levels : Nat) :
    e.markup? parent (levels + 1) node =
      some (e.container parent f (children.filterMap (e.markup? f.axis levels))) := by
  cases node with
  | frame g cs => cases h; exact markup?_frame hvisible children
  | text run => cases h
  | component g cs properties =>
    simp only [container?, Option.ite_none_right_eq_some] at h
    obtain ⟨htraverse, hfields⟩ := h
    cases hfields
    rw [markup?_component hvisible, htraverse]
  | unknown u => cases h

/-- The text of a container around the texts of its children. -/
theorem textAt_container {e : Emitter} {node : Node} {f : Frame} {children : List Node}
    (h : e.container? node = some (f, children)) (hvisible : node.isVisible = true)
    (parent : Option Axis) (levels : Nat) :
    e.textAt parent (levels + 1) node =
      Markup.openingTag e.options.flavor .div (e.theme.frame parent f) f.name ++
        orMarker (String.join (children.map (e.textAt f.axis levels))) ++
        Markup.closingTag .div := by
  rw [textAt_of_some (markup?_container h hvisible parent levels), container, Markup.render,
    renderAll_contentOrMarker]

theorem textAt_frame (e : Emitter) (parent : Option Axis) (levels : Nat) {f : Frame}
    (hvisible : f.visible = true) (children : List Node) :
    e.textAt parent (levels + 1) (.frame f children) =
      Markup.openingTag e.options.flavor .div (e.theme.frame parent f) f.name ++
        orMarker (String.join (children.map (e.textAt f.axis levels))) ++
        Markup.closingTag .div := by
  have hcontainer : e.container? (.frame f children) = some (f, children) := rfl
  exact textAt_container hcontainer hvisible parent levels

/-- **A container is emitted as its tags around its children**, each of which is emitted with the
container as its parent and one level less. -/
theorem emit_container (e : Emitter) {node : Node} {f : Frame} {children : List Node}
    (hcontainer : e.container? node = some (f, children)) (hvisible : node.isVisible = true)
    (outer : Option Node) (limit : Nat) :
    (e.withLimit (limit + 1)).emit node outer =
      Markup.openingTag e.options.flavor .div (e.theme.frame (outer.bind e.childAxis?) f) f.name ++
        orMarker (String.join
          (children.map fun child => (e.withLimit limit).emit child (some node))) ++
        "</div>" := by
  have haxis : (some node).bind e.childAxis? = f.axis := childAxis?_of_container? hcontainer
  simp only [emit_withLimit, haxis]
  rw [textAt_container hcontainer hvisible]
  rfl

/-- A row in a column: its child that fills the row grows, and its hidden child is nothing. -/
theorem emit_container_row :
    ((ofRegistry .empty).withLimit 2).emit
        (.frame { Frame.named "row" with axis := some .horizontal }
          [.frame { Frame.named "grow" with horizontal := some .fill } [],
            .text ⟨"off", false, none, none, none⟩])
        (some (.frame { Frame.named "column" with axis := some .vertical } [])) =
      "<div class=\"flex flex-row flex-nowrap\" title=\"row\">" ++
        orMarker (String.join
          ["<div class=\"flex-nowrap flex-1\" title=\"grow\">&#8203;</div>", ""]) ++
        "</div>" :=
  (emit_container (ofRegistry .empty) rfl rfl _ 1).trans (by decide +kernel)

end SceneMarkup.Emitter
