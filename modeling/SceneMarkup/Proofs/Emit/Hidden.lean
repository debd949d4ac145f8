import SceneMarkup.Proofs.Emit.DepthLimit

/-!
# Hidden nodes leave no trace

`Node.shown` is the tree without its hidden nodes: every list of children, at every depth, keeps the
visible ones alone. What is emitted for it is what is emitted for the whole tree
(`markup?_shown`, by induction on the levels that are left): a container looks for its marker in
what its children are emitted as, not in how many they are, and levels are counted downwards only.
-/

namespace SceneMarkup

namespace Node

mutual

/-- The tree without the hidden nodes below its root. -/
def shown : Node → Node
  | frame f children => frame f (shownOf children)
  | component f children properties => component f (shownOf children) properties
  | text run => text run
  | unknown u => unknown u

def shownOf : List Node → List Node
  | [] => []
  | node :: rest => if node.isVisible then node.shown :: shownOf rest else shownOf rest

end

theorem shownOf_eq (nodes : List Node) :
    shownOf nodes = (nodes.filter (·.isVisible)).map shown := by
  induction nodes with
  | nil => rfl
  | cons node rest ih =>
    rw [shownOf, ih]
    by_cases hvisible : node.isVisible = true
    · rw [if_pos hvisible, List.filter_cons_of_pos hvisible, List.map_cons]
    · rw [if_neg hvisible, List.filter_cons_of_neg hvisible]

theorem bare_shown (node : Node) : node.shown.bare = node.bare := by
  cases node <;> rfl

theorem isVisible_shown (node : Node) : node.shown.isVisible = node.isVisible := by
  rw [← isVisible_bare, bare_shown, isVisible_bare]

theorem name_shown (node : Node) : node.shown.name = node.name := by
  cases node <;> rfl

theorem children_shown (node : Node) :
    node.shown.children = (node.children.filter (·.isVisible)).map shown := by
  cases node with
  | frame f children => exact shownOf_eq children
  | component f children properties => exact shownOf_eq children
  | text run => rfl
  | unknown u => rfl

/-- No hidden node is left but the root, if it is one. -/
theorem isVisible_of_mem_atDepth_shown {depth : Nat} {node found : Node}
    (h : found ∈ node.shown.atDepth (depth + 1)) : found.isVisible = true := by
  induction depth generalizing node with
  | zero =>
    obtain ⟨child, hchild, hfound⟩ := List.mem_flatMap.mp h
    rw [children_shown] at hchild
    obtain ⟨original, horiginal, rfl⟩ := List.mem_map.mp hchild
    obtain rfl := List.mem_singleton.mp hfound
    rw [isVisible_shown]
    exact (List.mem_filter.mp horiginal).2
  | succ depth ih =>
    obtain ⟨child, hchild, hfound⟩ := List.mem_flatMap.mp h
    rw [children_shown] at hchild
    obtain ⟨original, -, rfl⟩ := List.mem_map.mp hchild
    exact ih hfound

end Node

namespace Emitter

variable {e : Emitter}

theorem markup?_shown (parent : Option Axis) (levels : Nat) (node : Node) :
    e.markup? parent levels node.shown = e.markup? parent levels node := by
  -- the axis changes on the way down, so the induction is for all parents
  induction levels generalizing node parent with
  | zero =>
    cases hvisible : node.isVisible with
    | false =>
      rw [markup?_hidden hvisible, markup?_hidden ((Node.isVisible_shown node).trans hvisible)]
    | true =>
      rw [markup?_limit hvisible, markup?_limit ((Node.isVisible_shown node).trans hvisible),
        depthWarning, depthWarning, Node.name_shown]
  | succ levels ih =>
    apply markup?_succ_congr (Node.bare_shown node)
    intro axis
    rw [Node.children_shown, List.filterMap_map, List.filterMap_filter]
    apply List.filterMap_congr
    intro child _
    cases hvisible : child.isVisible with
    | false => simp only [Bool.false_eq_true, if_false, markup?_hidden hvisible]
    | true => simp only [if_true, Function.comp_apply, ih]

/-- **Hidden nodes can be left out**: without the hidden nodes of its lists of children, at every
depth, a tree is emitted as the same text, and a tree with a hidden root as none at all. -/
theorem emit_shown (e : Emitter) (node : Node) (parent : Option Node) :
    e.emit node.shown parent = e.emit node parent ∧
    (∀ depth, ∀ found ∈ node.shown.atDepth (depth + 1), found.isVisible = true) ∧
    (node.isVisible = false → e.emit node parent = "") := by
  refine ⟨?_, ?_, ?_⟩
  · rw [emit_eq, emit_eq, textAt, textAt, markup?_shown]
  · intro depth found hfound
    exact Node.isVisible_of_mem_atDepth_shown hfound
  · intro hhidden
    rw [emit_eq, textAt_eq_empty_iff]
    exact hhidden

/-- A page with a hidden text in a frame that is then empty, and a hidden page around a text. -/
theorem emit_shown_page :
    (ofRegistry .empty).emit
        (.frame (.named "page")
          [.frame (.named "row") [.text ⟨"off", false, some "x", none, none⟩],
            .unknown ⟨"line", false, "LINE", none⟩])
        none =
      (ofRegistry .empty).emit (.frame (.named "page") [.frame (.named "row") []]) none ∧
    (ofRegistry .empty).emit
        (.frame { Frame.named "page" with visible := false } [.text (.reading "Hi")]) none = "" := by
  obtain ⟨hshown, -, -⟩ := emit_shown (ofRegistry .empty)
    (.frame (.named "page")
      [.frame (.named "row") [.text ⟨"off", false, some "x", none, none⟩],
        .unknown ⟨"line", false, "LINE", none⟩])
    none
  obtain ⟨-, -, hhidden⟩ := emit_shown (ofRegistry .empty)
    (.frame { Frame.named "page" with visible := false } [.text (.reading "Hi")]) none
  exact ⟨hshown.symm, hhidden rfl⟩

end Emitter

end SceneMarkup
