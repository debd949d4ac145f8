import SceneMarkup.Proofs.Json.Members
import SceneMarkup.Scene.Decode

/-!
# Replacing a child

A value is put in the place of a child, deep inside a scene that is given as JSON (`Value.replaceAt`)
or as a tree (`Node.replaceAt`). If the path leads through visible frames (`Node.LeadsTo`), decoding
turns the one into the other (`decode_replaceAt`): a frame reads its own fields apart from its
children, and its children apart from each other.
-/

namespace SceneMarkup

open Json (Value Shape putMember)

def Json.Value.replaceAt : Value → List Nat → Value → Value
  | _, [], new => new
  | .object members, i :: path, new =>
    match members.lookup "children" with
    | some (.array items) =>
      .object (putMember "children" (.array (items.modify i (·.replaceAt path new))) members)
    | _ => .object members
  | v, _ :: _, _ => v

namespace Node

/-- The tree with another node in the place that a path of child positions leads to. -/
def replaceAt : Node → List Nat → Node → Node
  | _, [], new => new
  | .frame f children, i :: path, new =>
    .frame f (children.modify i (·.replaceAt path new))
  | node, _ :: _, _ => node

/-- A path of child positions leads from a node through visible frames to the children of a last
frame. -/
inductive LeadsTo : Node → List Nat → Frame → List Node → Prop where
  | here {f : Frame} (hvisible : f.visible = true) (children : List Node) :
    LeadsTo (.frame f children) [] f children
  | down {f g : Frame} {children inner : List Node} {i : Nat} {child : Node} {path : List Nat}
      (hvisible : f.visible = true) (hchild : children[i]? = some child)
      (h : child.LeadsTo path g inner) : LeadsTo (.frame f children) (i :: path) g inner

end Node

/-! ## Frames are decoded apart from their children -/

/-- The members of a visible or hidden frame, whatever its children are. -/
structure IsFrameObject (members : List (String × Value)) (visible : Bool) : Prop where
  visible : nodeVisible? (.object members) = some visible
  kind : ∃ token, ((Value.object members).member? "type").bind Value.string? = some token ∧
    NodeKind.ofToken? token = some .frame
  fields : Frame.shape.mismatch? (.object members) = none

theorem frame_fault?_eq_none_iff (v : Value) :
    NodeKind.frame.fault? v = none ↔
      Frame.shape.mismatch? v = none ∧ ∃ items, childValues? v = some items := by
  simp only [NodeKind.fault?, Option.or_eq_none_iff, shapeFault?, Option.map_eq_none_iff,
    childrenFault?, ite_eq_right_iff, reduceCtorEq, imp_false, Bool.not_eq_true,
    Option.isNone_eq_false_iff, Option.isSome_iff_exists]

namespace IsFrameObject

variable {members : List (String × Value)} {visible : Bool}

theorem decode (h : IsFrameObject members visible) {items : List Value}
    (hitems : childValues? (.object members) = some items) (levels : Nat) :
    Node.decode (levels + 1) (.object members) =
      .frame (.ofValue visible (.object members)) (items.map (Node.decode levels)) := by
  obtain ⟨hvisible, ⟨token, htoken, hkind⟩, hfields⟩ := h
  have hfault := (frame_fault?_eq_none_iff _).mpr ⟨hfields, items, hitems⟩
  simp only [Node.decode, hvisible, htoken, hkind, hfault, hitems, Option.getD_some]

theorem of_decode {levels : Nat} {v : Value} {f : Frame} {children : List Node}
    (h : Node.decode levels v = .frame f children) :
    ∃ below members items, levels = below + 1 ∧ v = .object members ∧
      IsFrameObject members f.visible ∧ f = .ofValue f.visible (.object members) ∧
      childValues? (.object members) = some items ∧ children = items.map (Node.decode below) := by
  unfold Node.decode at h
  split at h
  · rename_i members
    simp only at h
    split at h
    · cases h
    · cases h
    · rename_i visible token hvisible htoken
      split at h
      · cases h
      · rename_i below
        split at h
        · cases h
        · rename_i kind hkind
          split at h
          · cases h
          · rename_i hfault
            cases kind with
            | text => cases h
            | component => cases h
            | frame =>
              obtain ⟨hfields, items, hitems⟩ := (frame_fault?_eq_none_iff _).mp hfault
              rw [hitems] at h
              cases h
              exact ⟨below, members, items, rfl, rfl, ⟨hvisible, ⟨token, htoken, hkind⟩, hfields⟩,
                rfl, hitems, rfl⟩
  · cases h

theorem putChildren (h : IsFrameObject members visible) (value : Value) :
    IsFrameObject (putMember "children" value members) visible where
  visible := by
    simpa only [nodeVisible?, Value.member?_putMember (show "visible" ≠ "children" by decide)]
      using h.visible
  kind := by
    simpa only [Value.member?_putMember (show "type" ≠ "children" by decide)] using h.kind
  fields := by
    rw [Frame.shape, Shape.mismatch?_putMember (by decide)]
    exact h.fields

end IsFrameObject

theorem ofValue_putChildren (visible : Bool) (members : List (String × Value)) (value : Value) :
    Frame.ofValue visible (.object (putMember "children" value members)) =
      Frame.ofValue visible (.object members) := by
  simp only [Frame.ofValue, textField, numberField, Shape.field?_putMember,
    Value.member?_putMember, ne_eq, String.reduceEq, not_false_eq_true]

theorem decode_putChildren {below : Nat} {members : List (String × Value)} {f : Frame}
    (hframe : IsFrameObject members f.visible) (hf : f = .ofValue f.visible (.object members))
    (items : List Value) :
    Node.decode (below + 1) (.object (putMember "children" (.array items) members)) =
      .frame f (items.map (Node.decode below)) := by
  have hitems : childValues? (.object (putMember "children" (.array items) members)) =
      some items := by
    simp only [childValues?, Value.member?, Json.lookup_putMember, if_true]
  rw [(hframe.putChildren (.array items)).decode hitems, ofValue_putChildren, ← hf]

/-! ## The path -/

theorem map_modify {α β : Type} {φ : α → β} {g : α → α} {g' : β → β} {items : List α} {i : Nat}
    {b : β} (hi : (items.map φ)[i]? = some b) (h : ∀ a, φ a = b → φ (g a) = g' b) :
    (items.modify i g).map φ = (items.map φ).modify i g' := by
  induction items generalizing i with
  | nil => cases hi
  | cons a rest ih =>
    cases i with
    | zero =>
      obtain rfl : φ a = b := by simpa using hi
      simp only [List.modify_zero_cons, List.map_cons, h a rfl]
    | succ i =>
      simp only [List.modify_succ_cons, List.map_cons, ih (by simpa using hi)]

/-- One step of the path: the child is replaced within the frame. -/
theorem decode_replaceAt_cons {levels : Nat} {v : Value} {f : Frame} {children : List Node}
    (hv : Node.decode levels v = .frame f children) {i : Nat} {child : Node}
    (hchild : children[i]? = some child) {path : List Nat} {new : Value} {node : Node}
    (h : ∀ item, Node.decode (levels - 1) item = child →
      Node.decode (levels - 1) (item.replaceAt path new) = child.replaceAt path node) :
    Node.decode levels (v.replaceAt (i :: path) new) =
      (Node.frame f children).replaceAt (i :: path) node := by
  obtain ⟨below, members, items, rfl, rfl, hframe, hf, hitems, rfl⟩ := IsFrameObject.of_decode hv
  -- a frame has no children either if it lists none or null, but this one has a child
  have hlookup : members.lookup "children" = some (.array items) := by
    cases hmember : members.lookup "children" with
    | none =>
      obtain rfl : [] = items := by simpa only [childValues?, Value.member?, hmember,
        Option.some.injEq] using hitems
      cases hchild
    | some found =>
      simp only [childValues?, Value.member?, hmember] at hitems
      cases found with
      | array found => cases hitems; rfl
      | null => cases hitems; cases hchild
      | _ => cases hitems
  have hmap : (items.modify i (·.replaceAt path new)).map (Node.decode below) =
      (items.map (Node.decode below)).modify i (·.replaceAt path node) := map_modify hchild h
  rw [Value.replaceAt, hlookup]
  simp only
  rw [decode_putChildren hframe hf, hmap, Node.replaceAt]

/-- **Decoding turns a replaced value into a replaced node**: whatever is put at the end of the path,
every other node is decoded as it was before. -/
theorem decode_replaceAt {node : Node} {above : List Nat} {f : Frame} {children : List Node}
    (h : node.LeadsTo above f children) {i : Nat} (hi : i < children.length) {levels : Nat}
    {v : Value} (hv : Node.decode levels v = node) (new : Value) :
    Node.decode levels (v.replaceAt (above ++ [i]) new) =
      node.replaceAt (above ++ [i]) (Node.decode (levels - (above.length + 1)) new) := by
  induction h generalizing levels v with
  | here hvisible children =>
    exact decode_replaceAt_cons hv (List.getElem?_eq_getElem hi) fun item _ => rfl
  | @down f g children inner j child path hvisible hchild _ ih =>
    refine decode_replaceAt_cons hv hchild fun item hitem => ?_
    have hlevels : levels - ((j :: path).length + 1) = levels - 1 - (path.length + 1) := by
      rw [List.length_cons]; omega
    rw [hlevels]
    exact ih hi hitem

end SceneMarkup
