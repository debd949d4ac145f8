import Mathlib.Data.List.Forall2
import SceneMarkup.Scene.Node

/-!
# Depth in a scene

The nodes of a tree by their depth (`Node.atDepth`), and trees that differ only below a depth
(`Node.AgreeAbove`): every node above it has the same fields in both, and the nodes at it have the
same names and are both visible or both hidden.
-/

namespace SceneMarkup.Node

/-- The nodes at a depth; the root is at depth 0. -/
def atDepth : Nat → Node → List Node
  | 0, node => [node]
  | depth + 1, node => node.children.flatMap (atDepth depth)

def withChildren (children : List Node) : Node → Node
  | frame f _ => frame f children
  | component f _ properties => component f children properties
  | node => node

/-- The fields of a node: all of it but its children. -/
def bare (node : Node) : Node := node.withChildren []

/-- Two trees with the same fields above a depth, and the same names and visibility at it. -/
def AgreeAbove : Nat → Node → Node → Prop
  | 0, a, b => a.name = b.name ∧ a.isVisible = b.isVisible
  | depth + 1, a, b => a.bare = b.bare ∧ List.Forall₂ (AgreeAbove depth) a.children b.children

theorem isVisible_bare (node : Node) : node.bare.isVisible = node.isVisible := by
  cases node <;> rfl

theorem atDepth_eq_nil_of_mem {depth : Nat} {node child : Node}
    (h : node.atDepth (depth + 1) = []) (hchild : child ∈ node.children) :
    child.atDepth depth = [] := List.flatMap_eq_nil_iff.mp h child hchild

end SceneMarkup.Node
