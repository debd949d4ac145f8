import SceneMarkup.Proofs.Emit.Levels
import SceneMarkup.Proofs.Scene.Depth

/-!
# Emission ends at the depth limit

What is emitted reads a node at the limit for its name and its visibility alone, and nothing below
it (`markup?_eq_of_agreeAbove`). A tree that does not reach the limit is emitted the same within any
greater one (`markup?_eq_of_atDepth`).
-/

namespace SceneMarkup.Emitter

open Node

variable {e : Emitter}

theorem filterMap_eq_of_forall₂ {α β : Type} {R : α → α → Prop} {φ : α → Option β}
    {as bs : List α} (h : List.Forall₂ R as bs) (hφ : ∀ a b, R a b → φ a = φ b) :
    as.filterMap φ = bs.filterMap φ := by
  induction h with
  | nil => rfl
  | cons hab _ ih => simp only [List.filterMap_cons, hφ _ _ hab, ih]

/-- A node above the limit is emitted by its fields and by what is emitted for its children. -/
theorem markup?_succ_congr {a b : Node} (hbare : a.bare = b.bare) {below below' : Nat}
    (hcontent : ∀ axis, a.children.filterMap (e.markup? axis below) =
      b.children.filterMap (e.markup? axis below')) (parent : Option Axis) :
    e.markup? parent (below + 1) a = e.markup? parent (below' + 1) b := by
  have hvisible : a.isVisible = b.isVisible := by
    rw [← isVisible_bare a, hbare, isVisible_bare]
  cases hb : b.isVisible with
  | false => rw [markup?_hidden hb, markup?_hidden (hvisible.trans hb)]
  | true =>
    have ha := hvisible.trans hb
    -- nodes with the same fields are of the same kind
    cases a with
    | frame f children =>
      cases b with
      | frame g others =>
        cases hbare
        have hchildren : children.filterMap (e.markup? f.axis below) =
            others.filterMap (e.markup? f.axis below') := hcontent f.axis
        rw [markup?_frame ha, markup?_frame hb, hchildren]
      | text | component | unknown => cases hbare
    | text run =>
      cases b with
      | text other => cases hbare; rw [markup?_text ha, markup?_text hb]
      | frame | component | unknown => cases hbare
    | component f children properties =>
      cases b with
      | component g others more =>
        cases hbare
        have hchildren : children.filterMap (e.markup? f.axis below) =
            others.filterMap (e.markup? f.axis below') := hcontent f.axis
        rw [markup?_component ha, markup?_component hb, hchildren]
      | frame | text | unknown => cases hbare
    | unknown u =>
      cases b with
      | unknown other => cases hbare; rw [markup?_unknown ha, markup?_unknown hb]
      | frame | text | component => cases hbare

theorem markup?_eq_of_agreeAbove {levels : Nat} {a b : Node} (h : AgreeAbove levels a b)
    (parent : Option Axis) : e.markup? parent levels a = e.markup? parent levels b := by
  -- the axis changes on the way down, so the induction is for all parents
  induction levels generalizing a b parent with
  | zero =>
    obtain ⟨hname, hvisible⟩ := h
    cases hb : b.isVisible with
    | false => rw [markup?_hidden hb, markup?_hidden (hvisible.trans hb)]
    | true =>
      rw [markup?_limit hb, markup?_limit (hvisible.trans hb), depthWarning, depthWarning, hname]
  | succ levels ih =>
    obtain ⟨hbare, hchildren⟩ := h
    refine markup?_succ_congr hbare (fun axis => ?_) parent
    exact filterMap_eq_of_forall₂ hchildren fun _ _ h => ih h axis

theorem markup?_eq_of_atDepth {depth limit : Nat} {node : Node} (h : node.atDepth depth = [])
    (hlimit : depth ≤ limit) (parent : Option Axis) :
    e.markup? parent limit node = e.markup? parent depth node := by
  induction depth generalizing limit node parent with
  | zero => cases h
  | succ depth ih =>
    obtain ⟨below, rfl⟩ : ∃ below, limit = below + 1 := Nat.exists_eq_add_one.mpr (by omega)
    refine markup?_succ_congr rfl (fun axis => List.filterMap_congr fun child hchild => ?_) parent
    exact ih (atDepth_eq_nil_of_mem h hchild) (by omega) axis

/-- **Emission is blind to what lies below the depth limit**: trees that agree above it, and in the
names and the visibility of the nodes at it, are emitted as the same text; and a tree that has no
node at the limit or below is emitted as the same text within every greater limit. -/
theorem emit_eq_of_agreeAbove (e : Emitter) (parent : Option Node) :
    (∀ a b, AgreeAbove e.options.maxDepth a b → e.emit a parent = e.emit b parent) ∧
    ∀ node, (∀ depth, e.options.maxDepth ≤ depth → node.atDepth depth = []) →
      ∀ limit, e.options.maxDepth ≤ limit →
        (e.withLimit limit).emit node parent = e.emit node parent := by
  constructor
  · intro a b h
    rw [emit_eq, emit_eq, textAt, textAt, markup?_eq_of_agreeAbove h]
  · intro node h limit hlimit
    have hmarkup := markup?_eq_of_atDepth (e := e) (h _ (Nat.le_refl _)) hlimit
      (parent.bind e.childAxis?)
    rw [emit_withLimit, emit_eq, textAt, textAt, hmarkup]

/-- Below a page, a frame full of text and an unknown line of its name; and a page whose text is
above the limit. -/
theorem emit_eq_of_agreeAbove_page :
    ((ofRegistry .empty).withLimit 1).emit
        (.frame (.named "page") [.frame (.named "row") [.text (.reading "deep")]]) none =
      ((ofRegistry .empty).withLimit 1).emit
        (.frame (.named "page") [.unknown ⟨"row", true, "LINE", none⟩]) none ∧
    ((ofRegistry .empty).withLimit 64).emit (.frame (.named "page") [.text (.reading "Hi")]) none =
      ((ofRegistry .empty).withLimit 2).emit (.frame (.named "page") [.text (.reading "Hi")])
        none := by
  have hshallow (depth : Nat) (h : 2 ≤ depth) :
      (Node.frame (.named "page") [.text (.reading "Hi")]).atDepth depth = [] := by
    obtain ⟨more, rfl⟩ := Nat.exists_eq_add_of_le' h
    rfl
  exact ⟨(emit_eq_of_agreeAbove ((ofRegistry .empty).withLimit 1) none).1 _ _
      ⟨rfl, .cons ⟨rfl, rfl⟩ .nil⟩,
    (emit_eq_of_agreeAbove ((ofRegistry .empty).withLimit 2) none).2 _ hshallow 64 (by decide)⟩

end SceneMarkup.Emitter
