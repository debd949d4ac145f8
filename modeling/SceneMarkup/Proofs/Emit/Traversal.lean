import SceneMarkup.Proofs.Emit.Emission
import SceneMarkup.Proofs.Scene.Depth

/-!
# Traversed instances are frames

`Node.asFrames` is the tree with every instance, at every depth, replaced by the frame that it is
laid out as. An emitter that traverses instances writes a tree as any emitter of its theme writes
the frames (`markup?_asFrames`, by induction on the levels that are left): in the emission itself,
in the axis that is handed to children, in visibility and in the name a warning shows, an instance
is its frame.
-/

namespace SceneMarkup

namespace Node

mutual

/-- The tree with every instance replaced by its frame. -/
def asFrames : Node → Node
  | frame f children => frame f (asFramesAll children)
  | component f children _ => frame f (asFramesAll children)
  | text run => text run
  | unknown u => unknown u

def asFramesAll : List Node → List Node
  | [] => []
  | node :: rest => node.asFrames :: asFramesAll rest

end

theorem asFramesAll_eq_map (nodes : List Node) : asFramesAll nodes = nodes.map asFrames := by
  induction nodes with
  | nil => rfl
  | cons node rest ih => rw [asFramesAll, ih, List.map_cons]

theorem isVisible_asFrames (node : Node) : node.asFrames.isVisible = node.isVisible := by
  cases node <;> rfl

theorem name_asFrames (node : Node) : node.asFrames.name = node.name := by
  cases node <;> rfl

theorem children_asFrames (node : Node) : node.asFrames.children = node.children.map asFrames := by
  cases node with
  | frame f children => exact asFramesAll_eq_map children
  | component f children properties => exact asFramesAll_eq_map children
  | text run => rfl
  | unknown u => rfl

theorem asFrames_ne_component (node : Node) (f : Frame) (children : List Node)
    (properties : List (String × Property)) : node.asFrames ≠ .component f children properties := by
  cases node <;> exact nofun

theorem atDepth_asFrames (depth : Nat) (node : Node) :
    node.asFrames.atDepth depth = (node.atDepth depth).map asFrames := by
  induction depth generalizing node with
  | zero => rfl
  | succ depth ih =>
    rw [atDepth, atDepth, children_asFrames, List.flatMap_map, List.map_flatMap]
    exact List.flatMap_congr fun child _ => ih child

end Node

namespace Emitter

variable {e e' : Emitter}

/-- In an emitter that traverses instances, children have the axis that they have in any emitter
inside of the frames. -/
theorem childAxis?_asFrames (htraverse : e.options.instances = .traverse) (node : Node) :
    e'.childAxis? node.asFrames = e.childAxis? node := by
  cases node with
  | frame f children => rfl
  | text run => rfl
  | component f children properties =>
    rw [Node.asFrames]
    simp only [childAxis?, htraverse, if_true]
  | unknown u => rfl

theorem markup?_asFrames (htheme : e'.theme = e.theme)
    (htraverse : e.options.instances = .traverse) (parent : Option Axis) (levels : Nat)
    (node : Node) : e'.markup? parent levels node.asFrames = e.markup? parent levels node := by
  -- the axis changes on the way down, so the induction is for all parents
  induction levels generalizing parent node with
  | zero => exact markup?_zero_congr (Node.name_asFrames node) (Node.isVisible_asFrames node)
  | succ levels ih =>
    have hcontainer (f : Frame) (children : List Node) :
        e'.container parent f
            ((Node.asFramesAll children).filterMap (e'.markup? f.axis levels)) =
          e.container parent f (children.filterMap (e.markup? f.axis levels)) := by
      rw [Node.asFramesAll_eq_map, List.filterMap_map, Function.comp_def, funext (ih f.axis),
        container, container, htheme]
    refine markup?_congr_visible (Node.isVisible_asFrames node) fun _ hvisible => ?_
    cases node with
    | frame f children =>
      rw [Node.asFrames, markup?_frame hvisible, markup?_frame hvisible, hcontainer]
    | text run =>
      rw [Node.asFrames, markup?_text hvisible, markup?_text hvisible, textMarkup, textMarkup,
        htheme]
    | component f children properties =>
      rw [Node.asFrames, markup?_frame hvisible, markup?_component hvisible, htraverse, hcontainer]
    | unknown u => rw [Node.asFrames, markup?_unknown hvisible, markup?_unknown hvisible]

theorem emit_of_traverse (htheme : e'.theme = e.theme)
    (htraverse : e.options.instances = .traverse)
    (hflavor : e'.options.flavor = e.options.flavor)
    (hlimit : e'.options.maxDepth = e.options.maxDepth) (node : Node) (parent : Option Node) :
    e'.emit node.asFrames (parent.map Node.asFrames) = e.emit node parent := by
  have haxis : (parent.map Node.asFrames).bind e'.childAxis? = parent.bind e.childAxis? := by
    cases parent with
    | none => rfl
    | some parent => exact childAxis?_asFrames htraverse parent
  rw [emit_eq, emit_eq, haxis, textAt, textAt, hlimit, hflavor,
    markup?_asFrames htheme htraverse]

/-- **To traverse instances is to emit their frames**: with every instance in the tree and in the
parent replaced by its frame, so that there is none left at any depth, the same text is emitted in
every instance mode, whatever is registered. -/
theorem emit_asFrames (theme : Theme) (flavor : Flavor) (limit : Nat) (registry : Registry)
    (node : Node) (parent : Option Node) :
    (∀ (registry' : Registry) (mode : InstanceMode),
      (Emitter.mk registry' theme ⟨flavor, mode, limit⟩).emit node.asFrames
          (parent.map Node.asFrames) =
        (Emitter.mk registry theme ⟨flavor, .traverse, limit⟩).emit node parent) ∧
    ∀ depth, ∀ found ∈ node.asFrames.atDepth depth, ∀ f children properties,
      found ≠ .component f children properties := by
  constructor
  · intro registry' mode
    apply emit_of_traverse <;> rfl
  · intro depth found hfound f children properties
    rw [Node.atDepth_asFrames] at hfound
    obtain ⟨original, -, rfl⟩ := List.mem_map.mp hfound
    exact original.asFrames_ne_component f children properties

/-- A row that its child fills, both of them instances, around a third one below the limit. -/
theorem emit_asFrames_row :
    (Emitter.mk .empty .standard ⟨.html, .registry, 2⟩).emit
        (.frame { Frame.named "row" with axis := some .horizontal }
          [.frame { Frame.named "grow" with horizontal := some .fill } [.frame (.named "deep") []]])
        none =
      (Emitter.mk (.register .empty ⟨"row", []⟩) .standard ⟨.html, .traverse, 2⟩).emit
        (.component { Frame.named "row" with axis := some .horizontal }
          [.component { Frame.named "grow" with horizontal := some .fill }
            [.component (.named "deep") [] []] []] [])
        none ∧
    Node.frame (.named "deep") [] ≠ .component (.named "deep") [] [] := by
  obtain ⟨hframes, hnone⟩ := emit_asFrames .standard .html 2 (.register .empty ⟨"row", []⟩)
    (.component { Frame.named "row" with axis := some .horizontal }
      [.component { Frame.named "grow" with horizontal := some .fill }
        [.component (.named "deep") [] []] []] [])
    none
  have hdeep : Node.frame (.named "deep") [] ∈
      (Node.component { Frame.named "row" with axis := some .horizontal }
        [.component { Frame.named "grow" with horizontal := some .fill }
          [.component (.named "deep") [] []] []] []).asFrames.atDepth 2 := .head _
  exact ⟨hframes .empty .registry, hnone 2 _ hdeep _ _ _⟩

end Emitter

end SceneMarkup
