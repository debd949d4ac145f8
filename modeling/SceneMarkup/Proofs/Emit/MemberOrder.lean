import SceneMarkup.Proofs.Scene.Agreement

/-!
# The order of members is not emitted

Scenes that agree (`Place.Agree`) are decoded as trees that differ at most in the messages of faults
of fields: which field is the first bad one may depend on the order of members, but whether one is
bad does not (`Place.Agree.unworded_decode`, by induction on the levels that are left). No message
is emitted (`Emitter.markup?_unworded`), so what is emitted is the same text.
-/

namespace SceneMarkup

open Json (Value Shape)

/-! ## Trees without messages -/

def DecodeFault.unworded : DecodeFault → DecodeFault
  | invalidField kind _ => invalidField kind ""
  | fault => fault

def UnknownNode.unworded (u : UnknownNode) : UnknownNode :=
  { u with reason := u.reason.map DecodeFault.unworded }

namespace Node

mutual

def unworded : Node → Node
  | frame f children => frame f (unwordedAll children)
  | component f children properties => component f (unwordedAll children) properties
  | text run => text run
  | unknown u => unknown u.unworded

def unwordedAll : List Node → List Node
  | [] => []
  | node :: rest => node.unworded :: unwordedAll rest

end

theorem unwordedAll_eq_map (nodes : List Node) : unwordedAll nodes = nodes.map unworded := by
  induction nodes with
  | nil => rfl
  | cons node rest ih => rw [unwordedAll, ih, List.map_cons]

theorem isVisible_unworded (node : Node) : node.unworded.isVisible = node.isVisible := by
  cases node <;> rfl

theorem name_unworded (node : Node) : node.unworded.name = node.name := by
  cases node <;> rfl

end Node

/-! ## Decoding -/

namespace Place.Agree

variable {v w : Value} {s : Shape} {ms ns : List (String × Value)}

theorem shapeFault?_unworded (h : Agree (.shape s) v w) (kind : NodeKind) :
    (shapeFault? kind s v).map DecodeFault.unworded =
      (shapeFault? kind s w).map DecodeFault.unworded := by
  have hnone := h.mismatch?_eq_none_iff
  unfold shapeFault?
  cases hv : s.mismatch? v with
  | none => rw [hnone.mp hv]
  | some m =>
    cases hw : s.mismatch? w with
    | none => cases hv.symm.trans (hnone.mpr hw)
    | some m' => rfl

/-- Nodes that agree have the same faults, but for their messages. -/
theorem fault?_unworded {token : String} {kind : NodeKind}
    (h : Agree .node (.object ms) (.object ns)) (htype : HasToken ms token)
    (hkind : token ∈ kind.tokens) :
    (kind.fault? (.object ms)).map DecodeFault.unworded =
      (kind.fault? (.object ns)).map DecodeFault.unworded := by
  cases kind with
  | text =>
    have htext : Agree (.shape TextRun.shape) _ _ := h.record htype hkind (.head _) id
    exact htext.shapeFault?_unworded _
  | frame =>
    have hframe := h.record_frame htype hkind (by decide)
    have hchildren := childrenFault?_eq (h.member? (.children htype hkind (by decide)))
    rw [NodeKind.fault?, NodeKind.fault?, Option.map_or, Option.map_or,
      hframe.shapeFault?_unworded, hchildren]
  | component =>
    have hframe := h.record_frame htype hkind (by decide)
    have hbag : Agree (.shape Property.bagShape) _ _ :=
      h.record htype hkind (.tail _ (.head _)) id
    have hchildren := childrenFault?_eq (h.member? (.children htype hkind (by decide)))
    rw [NodeKind.fault?, NodeKind.fault?, Option.map_or, Option.map_or, Option.map_or,
      Option.map_or, hframe.shapeFault?_unworded, hbag.shapeFault?_unworded, hchildren]

theorem tooDeep?_eq (h : Agree .node v w) : tooDeep? v = tooDeep? w := by
  cases v with
  | object ms =>
    obtain ⟨ns, rfl⟩ : ∃ ns, w = .object ns := by cases h <;> exact ⟨_, rfl⟩
    rw [tooDeep?, tooDeep?, h.nodeVisible?_eq, h.kindToken?_eq, h.nodeName_eq]
  | null | bool | integer | float | string | array => cases h <;> rfl

/-- A layer of nodes that agree is the same, but for messages, if what is below is so too. -/
theorem unworded_build (h : Agree .node v w) {children others : List Node}
    (hbelow : List.Forall₂ (Agree .node) (childItems v) (childItems w) →
      children.map Node.unworded = others.map Node.unworded) :
    (Node.build v children).unworded = (Node.build w others).unworded := by
  cases v with
  | object ms =>
    obtain ⟨ns, rfl⟩ : ∃ ns, w = .object ns := by cases h <;> exact ⟨_, rfl⟩
    unfold Node.build
    simp only [h.nodeVisible?_eq, h.kindToken?_eq, h.nodeName_eq]
    cases nodeVisible? (.object ns) with
    | none => rfl
    | some visible =>
      cases htoken : kindToken? (.object ns) with
      | none => rfl
      | some token =>
        have htype := (h.hasToken_iff token).mpr ((kindToken?_eq_some_iff ns token).mp htoken)
        simp only
        cases hkind : NodeKind.ofToken? token with
        | none => rfl
        | some kind =>
          have hmem := (NodeKind.ofToken?_eq_some_iff token kind).mp hkind
          have hfault := h.fault?_unworded htype hmem
          simp only
          generalize kind.fault? (.object ms) = fault at hfault ⊢
          generalize kind.fault? (.object ns) = fault' at hfault ⊢
          cases fault with
          | some f =>
            cases fault' with
            | none => cases hfault
            | some f' => simp only [Node.unworded, UnknownNode.unworded, hfault]
          | none =>
            cases fault' with
            | some f' => cases hfault
            | none =>
              cases kind with
              | text =>
                have htext : Agree (.shape TextRun.shape) _ _ :=
                  h.record htype hmem (.head _) id
                simp only [htext.text_eq]
              | frame =>
                have hitems := childItems_rel (h.member? (.children htype hmem (by decide)))
                simp only [Node.unworded, Node.unwordedAll_eq_map, hbelow hitems,
                  h.container_eq htype hmem (by decide)]
              | component =>
                have hitems := childItems_rel (h.member? (.children htype hmem (by decide)))
                have hbag := bag_eq (h.member? (.record htype hmem (.tail _ (.head _)) rfl))
                simp only [Node.unworded, Node.unwordedAll_eq_map, hbelow hitems,
                  h.container_eq htype hmem (by decide), hbag]
  | null | bool | integer | float | string | array => cases h <;> rfl

theorem unworded_decode (h : Agree .node v w) (levels : Nat) :
    (Node.decode levels v).unworded = (Node.decode levels w).unworded := by
  induction levels generalizing v w with
  | zero =>
    rw [Node.decode_zero v [], Node.decode_zero w [], h.tooDeep?_eq]
    cases tooDeep? w with
    | none => exact h.unworded_build fun _ => rfl
    | some node => rfl
  | succ levels ih =>
    rw [Node.decode_succ, Node.decode_succ]
    refine h.unworded_build fun hitems => ?_
    have hmap := Emitter.filterMap_eq_of_forall₂ hitems fun v w h =>
      congrArg some (ih h)
    simpa [List.filterMap_eq_map, Function.comp_def] using hmap

end Place.Agree

/-! ## Emission -/

namespace Emitter

variable {e : Emitter}

theorem markup?_unworded (parent : Option Axis) (levels : Nat) (node : Node) :
    e.markup? parent levels node.unworded = e.markup? parent levels node := by
  -- the axis changes on the way down, so the induction is for all parents
  induction levels generalizing parent node with
  | zero => exact markup?_zero_congr (Node.name_unworded node) (Node.isVisible_unworded node)
  | succ levels ih =>
    have hchildren (axis : Option Axis) (children : List Node) :
        (Node.unwordedAll children).filterMap (e.markup? axis levels) =
          children.filterMap (e.markup? axis levels) := by
      rw [Node.unwordedAll_eq_map, List.filterMap_map, Function.comp_def, funext (ih axis)]
    refine markup?_congr_visible (Node.isVisible_unworded node) fun hvisible hshown => ?_
    cases node with
    | frame f children =>
      rw [Node.unworded, markup?_frame hshown, markup?_frame hshown, hchildren]
    | text run => rfl
    | component f children properties =>
      rw [Node.unworded, markup?_component hshown, markup?_component hshown, hchildren]
    | unknown u =>
      rw [Node.unworded, markup?_unknown hvisible, markup?_unknown hshown]
      rfl

/-- **Neither the order of members nor a member that is not read reaches the markup**: two scenes
that differ at most in these, at any of their nodes, are decoded as trees that differ at most in the
messages of faults of fields, and they are emitted as the same text. -/
theorem emit_ofValue_of_agree {v w : Value} (h : Place.Agree .node v w) :
    (Node.ofValue v).unworded = (Node.ofValue w).unworded ∧
    ∀ (e : Emitter) (parent : Option Node),
      e.emit (Node.ofValue v) parent = e.emit (Node.ofValue w) parent := by
  have htree : (Node.ofValue v).unworded = (Node.ofValue w).unworded := h.unworded_decode _
  refine ⟨htree, fun e parent => ?_⟩
  rw [emit_eq, emit_eq, textAt, textAt, ← markup?_unworded, htree, markup?_unworded]

/-- A page with a frame that has two bad fields, in another order and with a member that is not
read: of the frame, another field is the first bad one. -/
theorem emit_ofValue_of_agree_page :
    (ofRegistry .empty).emit (Node.ofValue (.object [("type", .string "FRAME"),
        ("name", .string "page"),
        ("children", .array [.object [("type", .string "FRAME"), ("width", .string "wide"),
          ("height", .string "tall")]])])) none =
      (ofRegistry .empty).emit (Node.ofValue (.object [
        ("children", .array [.object [("id", .integer 5), ("height", .string "tall"),
          ("width", .string "wide"), ("type", .string "FRAME")]]),
        ("name", .string "page"), ("type", .string "FRAME")])) none := by
  have htype : HasToken [("type", .string "FRAME"), ("width", .string "wide"),
      ("height", .string "tall")] "FRAME" := rfl
  have hkind : "FRAME" ∈ NodeKind.frame.tokens := .head _
  have hunread := Place.Agree.of_unread
    (Place.not_reads_of_kind htype hkind (by decide : "id" ∉ _) (by decide)) (by decide) id
    (.integer 5)
  have hframe := hunread.trans (.of_perm (List.reverse_perm _).symm (by decide) id)
  have hdistinct : Json.DistinctKeys
      [("type", Value.string "FRAME"), ("name", .string "page")] := by decide
  have hchildren := Place.Agree.put_children hdistinct (.cons hframe .nil)
  have hpage := hchildren.trans (.of_perm (List.reverse_perm _).symm (by decide) id)
  exact (emit_ofValue_of_agree hpage).2 (ofRegistry .empty) none

end Emitter

end SceneMarkup
