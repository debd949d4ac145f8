import SceneMarkup.Proofs.Emit.Markers
import SceneMarkup.Proofs.Markup.Spans

/-!
# Text runs

The texts that are shown of a node are those of the visible texts that are reached from it above the
depth limit (`Emitter.shownTexts`). Unless an instance is emitted as a component tag, they are what
the spans of the emitted text hold (`Emitter.hasSpans_markup?`, by induction on the levels that are
left). Indenting leaves them as they are just if none of them is empty.
-/

namespace SceneMarkup.Emitter

open Markup (HasSpans)

/-! ## Shown texts -/

/-- The text of a reached node that is a visible text above the limit. -/
def shownText? : Nat × Node → Option String
  | (_ + 1, .text run) => if run.visible then some (run.characters.getD "") else none
  | _ => none

def shownTexts (e : Emitter) (levels : Nat) (node : Node) : List String :=
  (e.reached levels node).filterMap shownText?

def isTagged (e : Emitter) : Nat × Node → Bool
  | (_ + 1, .component f _ _) =>
    f.visible && e.options.instances == .registry && e.registry.contains (normalizeName f.name)
  | _ => false

variable {e : Emitter} {parent : Option Axis} {levels : Nat} {node : Node}

theorem shownTexts_hidden (h : node.isVisible = false) : e.shownTexts levels node = [] := by
  have hnone : shownText? (levels, node) = none := by
    cases node with
    | text run =>
      cases levels with
      | zero => rfl
      | succ levels => exact if_neg (Bool.eq_false_iff.mp h)
    | frame | component | unknown => cases levels <;> rfl
  rw [shownTexts, reached_hidden h, List.filterMap_cons_none hnone, List.filterMap_nil]

theorem shownTexts_zero (e : Emitter) (node : Node) : e.shownTexts 0 node = [] := rfl

theorem shownTexts_of_no_container (hcontainer : e.container? node = none) :
    e.shownTexts (levels + 1) node = (shownText? (levels + 1, node)).toList := by
  rw [shownTexts, reached_of_no_container hcontainer, List.filterMap_cons, List.filterMap_nil]
  cases shownText? (levels + 1, node) <;> rfl

theorem shownTexts_of_container {f : Frame} {children : List Node}
    (hcontainer : e.container? node = some (f, children)) (h : node.isVisible = true) :
    e.shownTexts (levels + 1) node = children.flatMap (e.shownTexts levels) := by
  have hnone : shownText? (levels + 1, node) = none := by
    cases node with
    | text run => cases hcontainer
    | frame | component | unknown => rfl
  rw [shownTexts, reached_of_container hcontainer h, List.filterMap_cons_none hnone,
    List.filterMap_flatMap]
  rfl

/-! ## Spans of emitted nodes -/

theorem hasSpans_children {children : List Node}
    (h : ∀ child ∈ children, ∀ m, e.markup? parent levels child = some m →
      HasSpans [m] (e.shownTexts levels child)) :
    HasSpans (children.filterMap (e.markup? parent levels))
      (children.flatMap (e.shownTexts levels)) := by
  induction children with
  | nil => exact .nil
  | cons child rest ih =>
    obtain ⟨hchild, hrest⟩ := List.forall_mem_cons.mp h
    rw [List.flatMap_cons]
    cases hm : e.markup? parent levels child with
    | none =>
      rw [List.filterMap_cons_none hm, shownTexts_hidden (isVisible_of_not_markup? hm)]
      exact ih hrest
    | some m =>
      rw [List.filterMap_cons_some hm]
      exact (hchild m hm).cons (ih hrest)

theorem hasSpans_container (hpalette : e.theme.palette.IsQuotable) (f : Frame)
    {content : List Markup} {spans : List String} (h : HasSpans content spans) :
    HasSpans [e.container parent f content] spans := by
  have hlook := e.theme.isReadable_frame hpalette parent f
  unfold container contentOrMarker
  split
  · rename_i hempty
    obtain rfl := List.isEmpty_iff.mp hempty
    rw [h.eq_nil]
    exact .box hlook (.inl rfl)
  · exact .div hlook h

/-- The spans of an emitted node hold the texts that are shown of it. -/
theorem hasSpans_markup? (hpalette : e.theme.palette.IsQuotable)
    (h : ∀ r ∈ e.reached levels node, e.isTagged r = false) {m : Markup}
    (hm : e.markup? parent levels node = some m) : HasSpans [m] (e.shownTexts levels node) := by
  have hvisible := isVisible_of_markup? hm
  induction levels generalizing parent node m with
  | zero =>
    rw [markup?_limit hvisible] at hm
    cases hm
    rw [shownTexts_zero]
    exact .box Look.isReadable_warning (.inl rfl)
  | succ levels ih =>
    cases hcontainer : e.container? node with
    | some c =>
      obtain ⟨f, children⟩ := c
      rw [markup?_container hcontainer hvisible] at hm
      cases hm
      rw [shownTexts_of_container hcontainer hvisible]
      rw [reached_of_container hcontainer hvisible] at h
      refine hasSpans_container hpalette f (hasSpans_children fun child hchild m hm => ?_)
      have hreached : ∀ r ∈ e.reached levels child, e.isTagged r = false :=
        fun r hr => h r (.tail _ (List.mem_flatMap.mpr ⟨child, hchild, hr⟩))
      exact ih hreached hm (isVisible_of_markup? hm)
    | none =>
      rw [shownTexts_of_no_container hcontainer]
      cases node with
      | frame f children => cases hcontainer
      | text run =>
        rw [markup?_text hvisible] at hm
        cases hm
        have htext : shownText? (levels + 1, .text run) = some (run.characters.getD "") :=
          if_pos hvisible
        rw [htext]
        exact .span (e.theme.isReadable_text run) _
      | component f children properties =>
        rw [markup?_component hvisible] at hm
        cases hm
        cases hmode : e.options.instances with
        | registry =>
          rw [reached_of_no_container hcontainer, List.forall_mem_singleton] at h
          have hvisible : f.visible = true := hvisible
          have hmissing : ¬ e.registry.contains (normalizeName f.name) = true := by
            simpa [isTagged, hvisible, hmode] using h
          simp only [componentMarkup, if_neg hmissing]
          exact .box Look.isReadable_missingComponent (.inr ⟨_, rfl⟩)
        | placeholder => exact .box (e.theme.isReadable_footprint f) (.inl rfl)
        | traverse => simp [container?, hmode] at hcontainer
      | unknown u =>
        rw [markup?_unknown hvisible] at hm
        cases hm
        exact .box Look.isReadable_warning (.inl rfl)

theorem readSpans_emit (e : Emitter) (hpalette : e.theme.palette.IsQuotable) {node : Node}
    (h : ∀ r ∈ e.reached e.options.maxDepth node, e.isTagged r = false) (parent : Option Node) :
    Reader.readSpans e.options.flavor (e.emit node parent) =
      some (e.shownTexts e.options.maxDepth node) := by
  rw [emit_eq]
  cases hm : e.markup? (parent.bind e.childAxis?) e.options.maxDepth node with
  | none =>
    rw [textAt_of_none hm, shownTexts_hidden (isVisible_of_not_markup? hm)]
    rfl
  | some m =>
    rw [textAt_of_some hm]
    exact (hasSpans_markup? hpalette h hm).readSpans e.options.flavor

/-- **Indenting leaves the text runs as they are just if none of them is empty**: unless an instance
is emitted as a component tag, the spans of the emitted text hold the texts that are shown, and those
of the indented text hold the same, provided that each of them holds something. -/
theorem readSpans_indent_emit (e : Emitter) (hpalette : e.theme.palette.IsQuotable) (node : Node)
    (h : ∀ r ∈ e.reached e.options.maxDepth node, e.isTagged r = false) (parent : Option Node) :
    Reader.readSpans e.options.flavor (e.emit node parent) =
        some (e.shownTexts e.options.maxDepth node) ∧
      (Reader.readSpans e.options.flavor (Markup.indent (e.emit node parent)) =
          Reader.readSpans e.options.flavor (e.emit node parent) ↔
        "" ∉ e.shownTexts e.options.maxDepth node) := by
  have hread := readSpans_emit e hpalette h parent
  exact ⟨hread, Reader.readSpans_indent_eq_iff hread⟩

/-- Line ends and blanks in a text, a text of brackets, and a hidden text without characters. -/
theorem readSpans_indent_emit_note :
    Reader.readSpans .html
        (Markup.indent ((ofRegistry .empty).emit
          (.frame (.named "Note")
            [.text (.reading "First line\n    second\n"), .frame (.named "><") [.text (.reading "><")],
              .text ⟨"off", false, none, none, none⟩])
          none)) =
      some ["First line\n    second\n", "><"] := by
  obtain ⟨hread, hsame⟩ := readSpans_indent_emit (ofRegistry .empty) (by decide)
    (.frame (.named "Note")
      [.text (.reading "First line\n    second\n"), .frame (.named "><") [.text (.reading "><")],
        .text ⟨"off", false, none, none, none⟩])
    (by decide) none
  exact (hsame.mpr (by decide)).trans hread

/-- The span of an empty text is broken over two lines, and holds a line end and blanks then. -/
theorem readSpans_indent_emit_empty :
    (∀ r ∈ (ofRegistry .empty).reached 64 (.frame (.named "") [.text (.reading "")]),
      (ofRegistry .empty).isTagged r = false) ∧
    Reader.readSpans .html
        (Markup.indent
          ((ofRegistry .empty).emit (.frame (.named "") [.text (.reading "")]) none)) ≠
      Reader.readSpans .html
        ((ofRegistry .empty).emit (.frame (.named "") [.text (.reading "")]) none) := by
  have hread : Reader.readSpans .html
      ((ofRegistry .empty).emit (.frame (.named "") [.text (.reading "")]) none) = some [""] := by
    decide +kernel
  have hindented : Reader.readSpans .html
      (Markup.indent ((ofRegistry .empty).emit (.frame (.named "") [.text (.reading "")]) none)) =
        some ["\n    "] := by
    decide +kernel
  refine ⟨by decide, ?_⟩
  rw [hread, hindented]
  decide

end SceneMarkup.Emitter
