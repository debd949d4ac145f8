import SceneMarkup.Proofs.Emit.Levels
import SceneMarkup.Proofs.Scene.Replacement

/-!
# What a replaced child changes

A child deep inside a scene stands in a slot of the text (`Emitter.slot`): its own text, or the
marker if it is hidden and so is all else in its frame. What is around the slot does not depend on
the child (`exists_around_slot`), and nothing does if the depth limit cuts the path off
(`markup?_replaceAt`).
-/

namespace SceneMarkup

open Json (Value)

namespace Node.LeadsTo

variable {node : Node} {above : List Nat} {f : Frame} {children : List Node}

theorem isVisible (h : node.LeadsTo above f children) : node.isVisible = true := by
  cases h with
  | here hvisible => exact hvisible
  | down hvisible => exact hvisible

theorem visible (h : node.LeadsTo above f children) : f.visible = true := by
  induction h with
  | here hvisible => exact hvisible
  | down _ _ _ ih => exact ih

theorem isVisible_replaceAt (h : node.LeadsTo above f children) (i : Nat) (new : Node) :
    (node.replaceAt (above ++ [i]) new).isVisible = true := by
  cases h with
  | here hvisible => exact hvisible
  | down hvisible => exact hvisible

theorem name_replaceAt (h : node.LeadsTo above f children) (i : Nat) (new : Node) :
    (node.replaceAt (above ++ [i]) new).name = node.name := by
  cases h <;> rfl

end Node.LeadsTo

/-! ## Lists with one item changed -/

theorem modify_of_eq {α : Type} {items : List α} {i : Nat} {a : α} (hi : items[i]? = some a)
    {g : α → α} (h : g a = a) : items.modify i g = items := by
  obtain ⟨hlt, rfl⟩ := List.getElem?_eq_some_iff.mp hi
  rw [List.modify_eq_take_cons_drop hlt, h, ← List.drop_eq_getElem_cons hlt, List.take_append_drop]

theorem filterMap_modify {α β : Type} {φ : α → Option β} {items : List α} {i : Nat} {a : α}
    (hi : items[i]? = some a) {g : α → α} (h : φ (g a) = φ a) :
    (items.modify i g).filterMap φ = items.filterMap φ := by
  induction items generalizing i with
  | nil => cases hi
  | cons b rest ih =>
    cases i with
    | zero =>
      obtain rfl : b = a := by simpa using hi
      simp only [List.modify_zero_cons, List.filterMap_cons, h]
    | succ i => simp only [List.modify_succ_cons, List.filterMap_cons, ih (by simpa using hi)]

theorem join_map_modify {α : Type} (φ : α → String) {items : List α} {i : Nat} {a : α}
    (hi : items[i]? = some a) (g : α → α) :
    String.join ((items.modify i g).map φ) =
      String.join ((items.take i).map φ) ++ φ (g a) ++
        String.join ((items.drop (i + 1)).map φ) := by
  obtain ⟨hlt, rfl⟩ := List.getElem?_eq_some_iff.mp hi
  rw [List.modify_eq_take_cons_drop hlt, List.map_append, List.map_cons, String.join_append,
    String.join_cons, String.append_assoc]

/-- A text around one of its items, whose place the marker takes if it is nothing and all there is. -/
theorem exists_around_item {α : Type} (φ : α → String) {items : List α} {i : Nat}
    (hi : i < items.length) :
    ∃ pre post, ∀ a, Emitter.orMarker (String.join ((items.modify i fun _ => a).map φ)) =
      pre ++ (if φ a = "" ∧ ∀ b ∈ items.eraseIdx i, φ b = "" then Markup.markerText else φ a) ++
        post := by
  have hjoin (a : α) := join_map_modify φ (List.getElem?_eq_getElem hi) fun _ => a
  have hempty : (∀ b ∈ items.eraseIdx i, φ b = "") ↔
      String.join ((items.take i).map φ) = "" ∧ String.join ((items.drop (i + 1)).map φ) = "" := by
    simp only [List.eraseIdx_eq_take_drop_succ, List.forall_mem_append, join_eq_empty_iff,
      List.forall_mem_map]
  simp only [hjoin, hempty]
  generalize String.join ((items.take i).map φ) = pre
  generalize String.join ((items.drop (i + 1)).map φ) = post
  by_cases hnone : pre = "" ∧ post = ""
  · -- the item is all there is, so the marker stands in for it if it is nothing
    obtain ⟨rfl, rfl⟩ := hnone
    refine ⟨"", "", fun a => ?_⟩
    simp only [Emitter.orMarker, String.empty_append, String.append_empty, and_self, and_true]
  · -- something is there whatever the item is
    refine ⟨pre, post, fun a => ?_⟩
    have hne : pre ++ φ a ++ post ≠ "" := by
      simp only [ne_eq, String.append_eq_empty_iff, not_and]
      intro hbefore hafter
      exact hnone ⟨hbefore.1, hafter⟩
    rw [if_neg fun h => hnone h.2, Emitter.orMarker, if_neg hne]

/-! ## Slots -/

namespace Emitter

/-- What stands in the text of a frame for the child at a position, with so many levels left: what
is emitted for it inside the frame, or the marker if that is nothing and all the other children are
hidden. -/
def slot (e : Emitter) (levels : Nat) (f : Frame) (children : List Node) (i : Nat) (child : Node) :
    String :=
  let text := (e.withLimit levels).emit child (some (.frame f children))
  if text = "" ∧ ∀ sibling ∈ children.eraseIdx i, sibling.isVisible = false then Markup.markerText
  else text

theorem slot_eq (e : Emitter) (levels : Nat) (f : Frame) (children : List Node) (i : Nat)
    (child : Node) :
    e.slot levels f children i child =
      if e.textAt f.axis levels child = "" ∧
          ∀ sibling ∈ children.eraseIdx i, e.textAt f.axis levels sibling = "" then
        Markup.markerText
      else e.textAt f.axis levels child := by
  have haxis : (some (Node.frame f children)).bind e.childAxis? = f.axis := rfl
  simp only [slot, emit_withLimit, haxis, textAt_eq_empty_iff]

variable {e : Emitter} {node : Node} {above : List Nat} {f : Frame} {children : List Node}

/-- What is around a child that is replaced by visible nodes only does not depend on them. -/
theorem exists_around_visible (e : Emitter) (parent : Option Axis) (levels : Nat)
    (hvisible : f.visible = true) {i : Nat} {child : Node} (hchild : children[i]? = some child) :
    ∃ pre post : String, Markup.IsBounded pre.toList ∧ Markup.IsBounded post.toList ∧
      ∀ g : Node → Node, (g child).isVisible = true →
        e.textAt parent (levels + 1) (.frame f (children.modify i g)) =
          pre ++ e.textAt f.axis levels (g child) ++ post := by
  refine ⟨Markup.openingTag e.options.flavor .div (e.theme.frame parent f) f.name ++
      String.join ((children.take i).map (e.textAt f.axis levels)),
    String.join ((children.drop (i + 1)).map (e.textAt f.axis levels)) ++ Markup.closingTag .div,
    ?_, ?_, fun g hg => ?_⟩
  · obtain ⟨inner, hopening⟩ :=
      Markup.exists_openingTag_eq e.options.flavor .div (e.theme.frame parent f) f.name
    rw [String.toList_append, hopening]
    exact (Markup.isBounded_tag inner).append (isBounded_join e _ _ _)
  · rw [String.toList_append, Markup.toList_closingTag]
    exact (isBounded_join e _ _ _).append (Markup.isBounded_tag _)
  have hne : e.textAt f.axis levels (g child) ≠ "" := by
    rw [Ne, textAt_eq_empty_iff, hg]
    decide
  rw [textAt_frame e parent levels hvisible, join_map_modify _ hchild, orMarker, if_neg]
  · simp only [String.append_assoc]
  · simp only [String.append_eq_empty_iff, not_and]
    intro hbefore
    exact absurd hbefore.2 hne

theorem exists_around_frame (e : Emitter) (h : node.LeadsTo above f children)
    (parent : Option Axis) {levels : Nat} (hlevels : above.length < levels) :
    ∃ (pre post : String) (outer : Option Axis),
      Markup.IsBounded pre.toList ∧ Markup.IsBounded post.toList ∧ ∀ i new,
        e.textAt parent levels (node.replaceAt (above ++ [i]) new) =
          pre ++ e.textAt outer (levels - above.length)
            (.frame f (children.modify i fun _ => new)) ++ post := by
  induction h generalizing parent levels with
  | here hvisible children =>
    refine ⟨"", "", parent, .nil, .nil, fun i new => ?_⟩
    simp only [List.nil_append, Node.replaceAt, List.length_nil, Nat.sub_zero, String.empty_append,
      String.append_empty]
  | @down f g children inner j child path hvisible hchild h ih =>
    obtain ⟨below, rfl⟩ : ∃ below, levels = below + 1 :=
      Nat.exists_eq_add_one.mpr (Nat.zero_lt_of_lt hlevels)
    have hbelow : path.length < below := Nat.lt_of_succ_lt_succ hlevels
    -- the frame on the path stays visible, so the marker rule of the outer frame never applies
    obtain ⟨outerPre, outerPost, houterPre, houterPost, houter⟩ :=
      exists_around_visible e parent below hvisible hchild
    obtain ⟨pre, post, outer, hpre, hpost, hinner⟩ := ih f.axis hbelow
    refine ⟨outerPre ++ pre, post ++ outerPost, outer, ?_, ?_, fun i new => ?_⟩
    · rw [String.toList_append]
      exact houterPre.append hpre
    · rw [String.toList_append]
      exact hpost.append houterPost
    · have hlength : below + 1 - (j :: path).length = below - path.length := by
        rw [List.length_cons]; omega
      rw [List.cons_append, Node.replaceAt, houter _ (h.isVisible_replaceAt i new), hinner, hlength]
      simp only [String.append_assoc]

theorem exists_around_slot (e : Emitter) (h : node.LeadsTo above f children) {i : Nat}
    (hi : i < children.length) (parent : Option Axis) {levels : Nat}
    (hlevels : above.length < levels) :
    ∃ pre post, ∀ new,
      e.textAt parent levels (node.replaceAt (above ++ [i]) new) =
        pre ++ e.slot (levels - (above.length + 1)) f children i new ++ post := by
  obtain ⟨outerPre, outerPost, outer, -, -, houter⟩ := exists_around_frame e h parent hlevels
  obtain ⟨below, hbelow⟩ : ∃ below, levels - above.length = below + 1 :=
    Nat.exists_eq_add_one.mpr (Nat.sub_pos_of_lt hlevels)
  have hslot : levels - (above.length + 1) = below := by omega
  obtain ⟨pre, post, hcontent⟩ := exists_around_item (e.textAt f.axis below) hi
  refine ⟨outerPre ++
      (Markup.openingTag e.options.flavor .div (e.theme.frame outer f) f.name ++ pre),
    post ++ Markup.closingTag .div ++ outerPost, fun new => ?_⟩
  rw [houter, hbelow, hslot, textAt_frame e outer below h.visible, slot_eq, hcontent]
  simp only [String.append_assoc]

theorem exists_around_child (e : Emitter) (h : node.LeadsTo above f children) {i : Nat}
    {child : Node} (hchild : children[i]? = some child) (parent : Option Axis) {levels : Nat}
    (hlevels : above.length < levels) :
    ∃ pre post : String, Markup.IsBounded pre.toList ∧ Markup.IsBounded post.toList ∧
      ∀ new : Node, new.isVisible = true →
        e.textAt parent levels (node.replaceAt (above ++ [i]) new) =
          pre ++ e.textAt f.axis (levels - (above.length + 1)) new ++ post := by
  obtain ⟨outerPre, outerPost, outer, houterPre, houterPost, houter⟩ :=
    exists_around_frame e h parent hlevels
  obtain ⟨below, hbelow⟩ : ∃ below, levels - above.length = below + 1 :=
    Nat.exists_eq_add_one.mpr (Nat.sub_pos_of_lt hlevels)
  have hlength : levels - (above.length + 1) = below := by omega
  obtain ⟨pre, post, hpre, hpost, hcontent⟩ :=
    exists_around_visible e outer below h.visible hchild
  refine ⟨outerPre ++ pre, post ++ outerPost, ?_, ?_, fun new hnew => ?_⟩
  · rw [String.toList_append]
    exact houterPre.append hpre
  · rw [String.toList_append]
    exact hpost.append houterPost
  · rw [houter, hbelow, hlength, hcontent (fun _ => new) hnew]
    simp only [String.append_assoc]

theorem markup?_replaceAt (e : Emitter) (h : node.LeadsTo above f children) (i : Nat) (new : Node)
    (parent : Option Axis) {levels : Nat} (hlevels : levels ≤ above.length) :
    e.markup? parent levels (node.replaceAt (above ++ [i]) new) = e.markup? parent levels node := by
  induction levels generalizing node above parent with
  | zero =>
    rw [markup?_limit h.isVisible, markup?_limit (h.isVisible_replaceAt i new), depthWarning,
      depthWarning, h.name_replaceAt]
  | succ below ih =>
    cases h with
    | here hvisible => exact absurd hlevels (Nat.not_succ_le_zero below)
    | @down f _ inner _ j child path hvisible hchild h =>
      have hmap : (inner.modify j (·.replaceAt (path ++ [i]) new)).filterMap
          (e.markup? f.axis below) = inner.filterMap (e.markup? f.axis below) :=
        filterMap_modify hchild (ih h f.axis (Nat.le_of_succ_le_succ hlevels))
      rw [List.cons_append, Node.replaceAt, markup?_frame hvisible, markup?_frame hvisible, hmap]

theorem replaceAt_self (h : node.LeadsTo above f children) {i : Nat} {child : Node}
    (hi : children[i]? = some child) : node.replaceAt (above ++ [i]) child = node := by
  induction h with
  | here hvisible children =>
    rw [List.nil_append, Node.replaceAt, modify_of_eq hi]
    rw [Node.replaceAt]
  | down hvisible hchild h ih =>
    rw [List.cons_append, Node.replaceAt, modify_of_eq hchild (ih hi)]

/-- **A replaced value changes its own slot alone.** Let a path lead through visible frames to the
child at a position of a last frame. Whatever value is put there, all other nodes are decoded as
before; what is emitted differs in the slot of the child alone if the last frame is above the depth
limit, and not at all if it is not. -/
theorem emit_replaceAt (e : Emitter) {v : Value} (h : (Node.ofValue v).LeadsTo above f children)
    {i : Nat} (hi : i < children.length) (parent : Option Node) :
    (∀ new, Node.ofValue (v.replaceAt (above ++ [i]) new) =
      (Node.ofValue v).replaceAt (above ++ [i])
        (Node.decode (maxSceneDepth - (above.length + 1)) new)) ∧
    (above.length < e.options.maxDepth → ∃ pre post,
      e.emit (Node.ofValue v) parent =
        pre ++ e.slot (e.options.maxDepth - (above.length + 1)) f children i children[i] ++ post ∧
      ∀ new, e.emit (Node.ofValue (v.replaceAt (above ++ [i]) new)) parent =
        pre ++ e.slot (e.options.maxDepth - (above.length + 1)) f children i
          (Node.decode (maxSceneDepth - (above.length + 1)) new) ++ post) ∧
    (e.options.maxDepth ≤ above.length → ∀ new,
      e.emit (Node.ofValue (v.replaceAt (above ++ [i]) new)) parent =
        e.emit (Node.ofValue v) parent) := by
  have hdecode (new : Value) : Node.ofValue (v.replaceAt (above ++ [i]) new) =
      (Node.ofValue v).replaceAt (above ++ [i])
        (Node.decode (maxSceneDepth - (above.length + 1)) new) := decode_replaceAt h hi rfl new
  refine ⟨hdecode, fun hdepth => ?_, fun hcut new => ?_⟩
  · obtain ⟨pre, post, haround⟩ := exists_around_slot e h hi (parent.bind e.childAxis?) hdepth
    refine ⟨pre, post, ?_, fun new => ?_⟩
    · rw [← haround, replaceAt_self h (List.getElem?_eq_getElem hi), emit_eq]
    · rw [hdecode, emit_eq, haround]
  · rw [hdecode, emit_eq, emit_eq, textAt, textAt, markup?_replaceAt e h i _ _ hcut]

/-- The only child of a frame inside a frame, which is no node at all. -/
theorem emit_replaceAt_number :
    ∃ pre post, ∀ new,
      (ofRegistry .empty).emit
          (Node.ofValue (Value.replaceAt
            (.object [("type", .string "FRAME"), ("children", .array
              [.object [("type", .string "FRAME"), ("children", .array [.integer 5])]])])
            [0, 0] new))
          none =
        pre ++ (ofRegistry .empty).slot 62 (Frame.named "")
          [.unknown ⟨"", true, none, some .notAnObject⟩] 0 (Node.decode 254 new) ++ post := by
  have hframe (items : List Value) (levels : Nat) :
      Node.decode (levels + 1) (.object [("type", .string "FRAME"), ("children", .array items)]) =
        .frame (.named "") (items.map (Node.decode levels)) :=
    IsFrameObject.decode ⟨rfl, ⟨"FRAME", rfl, rfl⟩, rfl⟩ rfl levels
  have hpath : Node.LeadsTo (Node.ofValue
      (.object [("type", .string "FRAME"), ("children", .array
        [.object [("type", .string "FRAME"), ("children", .array [.integer 5])]])]))
      [0] (.named "") [.unknown ⟨"", true, none, some .notAnObject⟩] := by
    rw [Node.ofValue, maxSceneDepth, hframe, List.map_cons, hframe]
    exact .down rfl rfl (.here rfl _)
  obtain ⟨-, hslot, -⟩ := emit_replaceAt (ofRegistry .empty) hpath (i := 0) (by decide) none
  obtain ⟨pre, post, -, h⟩ := hslot (by decide)
  exact ⟨pre, post, h⟩

end Emitter

end SceneMarkup
