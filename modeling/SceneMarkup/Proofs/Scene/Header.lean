import SceneMarkup.Proofs.Scene.DepthCut

/-!
# Headers survive decoding

Every node that a value is decoded as, known or not and for whatever reason, has the name and the
visibility that the value gives (`Node.HasHeader`). One layer of decoding keeps them
(`hasHeader_build`), and so does what stands for a node that is too deep (`hasHeader_of_tooDeep?`).
As only hidden nodes are emitted as nothing, a node is lost just if it says that it is not visible
(`header_decode`).
-/

namespace SceneMarkup

open Json (Value)

namespace Node

/-- A node has the name that a value gives, and is shown unless the value says no. -/
structure HasHeader (node : Node) (v : Value) : Prop where
  name : node.name = nodeName v
  visible : node.isVisible = (nodeVisible? v).getD true

theorem hasHeader_unknown {v : Value} {visible : Bool} (h : (nodeVisible? v).getD true = visible)
    (kind : Option String) (reason : Option DecodeFault) :
    HasHeader (.unknown ⟨nodeName v, visible, kind, reason⟩) v := ⟨rfl, h.symm⟩

theorem hasHeader_build (v : Value) (children : List Node) : (build v children).HasHeader v := by
  cases v with
  | object members =>
    unfold build
    simp only
    cases hvisible : nodeVisible? (.object members) with
    | none => exact hasHeader_unknown (by rw [hvisible]; rfl) _ _
    | some visible =>
      have hgiven : (nodeVisible? (.object members)).getD true = visible := by
        rw [hvisible]
        rfl
      cases kindToken? (.object members) with
      | none => exact hasHeader_unknown hgiven _ _
      | some token =>
        simp only
        cases NodeKind.ofToken? token with
        | none => exact hasHeader_unknown hgiven _ _
        | some kind =>
          simp only
          cases kind.fault? (.object members) with
          | some fault => exact hasHeader_unknown hgiven _ _
          | none =>
            -- the wire records read the name once more, from the same member
            cases kind with
            | frame => exact ⟨rfl, hgiven.symm⟩
            | text => exact ⟨rfl, hgiven.symm⟩
            | component => exact ⟨rfl, hgiven.symm⟩
  | null | bool | integer | float | string | array => exact ⟨rfl, rfl⟩

theorem hasHeader_of_tooDeep? {v : Value} {node : Node} (h : tooDeep? v = some node) :
    node.HasHeader v := by
  unfold tooDeep? at h
  obtain ⟨visible, hvisible, h⟩ := Option.bind_eq_some_iff.mp h
  obtain ⟨token, -, rfl⟩ := Option.map_eq_some_iff.mp h
  exact hasHeader_unknown (by rw [hvisible]; rfl) _ _

theorem hasHeader_decode (levels : Nat) (v : Value) : (decode levels v).HasHeader v := by
  cases levels with
  | zero =>
    rw [decode_zero v []]
    cases h : tooDeep? v with
    | none => exact hasHeader_build v []
    | some node => exact hasHeader_of_tooDeep? h
  | succ levels =>
    rw [decode_succ]
    exact hasHeader_build v _

end Node

theorem nodeName_of_string {v : Value} {name : String}
    (h : v.member? "name" = some (.string name)) : nodeName v = name := by
  rw [nodeName, h]
  rfl

theorem nodeName_of_no_string {v : Value}
    (h : ∀ name, v.member? "name" ≠ some (.string name)) : nodeName v = "" := by
  unfold nodeName
  cases hmember : v.member? "name" with
  | none => rfl
  | some found =>
    cases found with
    | string name => exact absurd hmember (h name)
    | null | bool | integer | float | array | object => rfl

theorem nodeVisible?_getD_eq_false_iff (v : Value) :
    (nodeVisible? v).getD true = false ↔ v.member? "visible" = some (.bool false) := by
  unfold nodeVisible?
  cases v.member? "visible" with
  | none => simp
  | some found => cases found <;> simp

/-- **A node disappears only if it says so, and its header survives whatever it is decoded as**: its
name is the one in the value, if there is one in words; it is hidden, and emitted as nothing, just if
the value is an object that says `false` to being visible. -/
theorem header_decode (levels : Nat) (v : Value) :
    (∀ name, v.member? "name" = some (.string name) → (Node.decode levels v).name = name) ∧
    ((∀ name, v.member? "name" ≠ some (.string name)) → (Node.decode levels v).name = "") ∧
    ((Node.decode levels v).isVisible = false ↔ v.member? "visible" = some (.bool false)) ∧
    ∀ (e : Emitter) (parent : Option Node),
      e.emit (Node.decode levels v) parent = "" ↔ v.member? "visible" = some (.bool false) := by
  obtain ⟨hname, hvisible⟩ := Node.hasHeader_decode levels v
  have hhidden : (Node.decode levels v).isVisible = false ↔
      v.member? "visible" = some (.bool false) := by
    rw [hvisible, nodeVisible?_getD_eq_false_iff]
  refine ⟨?_, ?_, hhidden, ?_⟩
  · intro name h
    rw [hname, nodeName_of_string h]
  · intro h
    rw [hname, nodeName_of_no_string h]
  · intro e parent
    rw [Emitter.emit_eq, Emitter.textAt_eq_empty_iff, hhidden]

/-- A hidden frame of a bad width keeps its name, and a number has none. -/
theorem header_decode_frame :
    (Node.decode 7 (.object [("type", .string "FRAME"), ("name", .string "Card"),
      ("visible", .bool false), ("width", .string "wide")])).name = "Card" ∧
    (Node.decode 7 (.integer 5)).name = "" := by
  obtain ⟨hname, -⟩ := header_decode 7 (.object [("type", .string "FRAME"),
    ("name", .string "Card"), ("visible", .bool false), ("width", .string "wide")])
  obtain ⟨-, hnone, -⟩ := header_decode 7 (.integer 5)
  exact ⟨hname "Card" rfl, hnone fun _ => nofun⟩

end SceneMarkup
