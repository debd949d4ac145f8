import SceneMarkup.Proofs.Emit.DepthLimit
import SceneMarkup.Scene.Decode

/-!
# Decoding ends at the depth limit

`Node.decodeAll` decodes a value however deep it is nested; one layer of it (`Node.build`) is one
layer of `Node.decode`. What `Node.decode` gives is that tree cut off (`decode_eq_cut`): a node at
the limit that has a kind and says rightly whether it is visible becomes an unknown node that is too
deep (`tooDeep?`), and none is below it.
-/

namespace SceneMarkup

open Json (Value)

/-! ## Decoding without a limit -/

def kindToken? (v : Value) : Option String := (v.member? "type").bind Value.string?

/-- The node that a value is read as, given what its children are decoded as. -/
def Node.build (v : Value) (children : List Node) : Node :=
  match v with
  | .object _ =>
    match nodeVisible? v, kindToken? v with
    | none, kind => .unknown ⟨nodeName v, true, kind, some .invalidVisibility⟩
    | some visible, none => .unknown ⟨nodeName v, visible, none, some .missingType⟩
    | some visible, some token =>
      match NodeKind.ofToken? token with
      | none => .unknown ⟨nodeName v, visible, some token, none⟩
      | some kind =>
        match kind.fault? v with
        | some fault => .unknown ⟨nodeName v, visible, some token, some fault⟩
        | none =>
          match kind with
          | .frame => .frame (.ofValue visible v) children
          | .text => .text (.ofValue visible v)
          | .component => .component (.ofValue visible v) children (Property.bagOf v)
  | _ => .unknown ⟨"", true, none, some .notAnObject⟩

/-- The values that are decoded as children; none if there is no list of them. -/
def childItems (v : Value) : List Value := (childValues? v).getD []

theorem sizeOf_lt_of_lookup {key : String} {v : Value} {members : List (String × Value)}
    (h : members.lookup key = some v) : sizeOf v < sizeOf members := by
  obtain ⟨before, after, rfl, -⟩ := List.lookup_eq_some_iff.mp h
  have hmem : (key, v) ∈ before ++ (key, v) :: after := List.mem_append_right _ (.head _)
  have hlt := List.sizeOf_lt_of_mem hmem
  simp only [Prod.mk.sizeOf_spec] at hlt
  omega

theorem sizeOf_lt_of_mem_childItems {v item : Value} (h : item ∈ childItems v) :
    sizeOf item < sizeOf v := by
  unfold childItems childValues? at h
  cases v with
  | object members =>
    cases hchildren : members.lookup "children" with
    | none => simp [Value.member?, hchildren] at h
    | some children =>
      have hlookup := sizeOf_lt_of_lookup hchildren
      cases children with
      | array items =>
        simp only [Value.member?, hchildren, Option.getD_some] at h
        have hitem := List.sizeOf_lt_of_mem h
        simp only [Value.array.sizeOf_spec] at hlookup
        simp only [Value.object.sizeOf_spec]
        omega
      | _ => simp [Value.member?, hchildren] at h
  | _ => simp [Value.member?] at h

/-- Decodes a value, however deep it is nested. -/
def Node.decodeAll (v : Value) : Node :=
  .build v ((childItems v).attach.map fun item => decodeAll item.val)
termination_by sizeOf v
decreasing_by exact sizeOf_lt_of_mem_childItems item.property

theorem Node.decodeAll_eq (v : Value) :
    Node.decodeAll v = .build v ((childItems v).map Node.decodeAll) := by
  rw [Node.decodeAll, List.attach_map_val]

/-! ## One layer of decoding -/

/-- What stands for a node that is nested too deep: a node that has a kind and says rightly whether
it is visible keeps these and its name. -/
def tooDeep? (v : Value) : Option Node :=
  (nodeVisible? v).bind fun visible =>
    (kindToken? v).map fun token => .unknown ⟨nodeName v, visible, some token, some .tooDeep⟩

namespace Node

/-- Decoding with a level to go is a layer of decoding with one level less. -/
theorem decode_succ (levels : Nat) (v : Value) :
    decode (levels + 1) v = build v ((childItems v).map (decode levels)) := by
  cases v with
  | object members =>
    unfold decode build kindToken? childItems
    simp only
    cases nodeVisible? (.object members) with
    | none => rfl
    | some visible => cases ((Value.object members).member? "type").bind Value.string? <;> rfl
  | _ => rfl

theorem decode_zero (v : Value) (children : List Node) :
    decode 0 v = (tooDeep? v).getD (build v children) := by
  cases v with
  | object members =>
    unfold decode build tooDeep? kindToken?
    simp only
    cases nodeVisible? (.object members) with
    | none => rfl
    | some visible => cases ((Value.object members).member? "type").bind Value.string? <;> rfl
  | _ => rfl

theorem exists_decode_zero (v : Value) :
    ∃ u, decode 0 v = .unknown u ∧ ∃ fault, u.reason = some fault := by
  cases v with
  | object members =>
    unfold decode
    simp only
    cases nodeVisible? (.object members) with
    | none => exact ⟨_, rfl, _, rfl⟩
    | some visible =>
      cases ((Value.object members).member? "type").bind Value.string? <;> exact ⟨_, rfl, _, rfl⟩
  | _ => exact ⟨_, rfl, _, rfl⟩

end Node

theorem shapeFault?_ne_tooDeep (kind : NodeKind) (shape : Json.Shape) (v : Value) :
    shapeFault? kind shape v ≠ some .tooDeep := by
  unfold shapeFault?
  cases shape.mismatch? v <;> simp

theorem childrenFault?_ne_tooDeep (v : Value) : childrenFault? v ≠ some .tooDeep := by
  unfold childrenFault?
  split <;> simp

theorem NodeKind.fault?_ne_tooDeep (kind : NodeKind) (v : Value) :
    kind.fault? v ≠ some .tooDeep := by
  cases kind <;>
    simp [fault?, Option.or_eq_some_iff, shapeFault?_ne_tooDeep, childrenFault?_ne_tooDeep]

namespace Node

theorem build_cases (v : Value) :
    (∃ u, u.reason ≠ some .tooDeep ∧ ∀ children, build v children = .unknown u) ∨
    (∃ run, ∀ children, build v children = .text run) ∨
    (∃ f, ∀ children, build v children = .frame f children) ∨
    ∃ f properties, ∀ children, build v children = .component f children properties := by
  cases v with
  | object members =>
    unfold build
    simp only
    cases nodeVisible? (.object members) with
    | none => exact .inl ⟨_, by simp, fun _ => rfl⟩
    | some visible =>
      cases kindToken? (.object members) with
      | none => exact .inl ⟨_, by simp, fun _ => rfl⟩
      | some token =>
        simp only
        cases NodeKind.ofToken? token with
        | none => exact .inl ⟨_, by simp, fun _ => rfl⟩
        | some kind =>
          simp only
          cases hfault : kind.fault? (.object members) with
          | some fault =>
            refine .inl ⟨_, ?_, fun _ => rfl⟩
            exact hfault ▸ kind.fault?_ne_tooDeep _
          | none =>
            cases kind with
            | text => exact .inr (.inl ⟨_, fun _ => rfl⟩)
            | frame => exact .inr (.inr (.inl ⟨_, fun _ => rfl⟩))
            | component => exact .inr (.inr (.inr ⟨_, _, fun _ => rfl⟩))
  | _ => exact .inl ⟨_, by simp, fun _ => rfl⟩

variable {v : Value} {children : List Node}

theorem withChildren_build (v : Value) (children others : List Node) :
    (build v children).withChildren others = build v others := by
  obtain ⟨u, -, h⟩ | ⟨run, h⟩ | ⟨f, h⟩ | ⟨f, properties, h⟩ := build_cases v <;>
    rw [h, h] <;> rfl

theorem children_build (v : Value) :
    (∀ children, (build v children).children = children) ∨
    ∀ children, (build v children).children = [] ∧ build v children = build v [] := by
  obtain ⟨u, -, h⟩ | ⟨run, h⟩ | ⟨f, h⟩ | ⟨f, properties, h⟩ := build_cases v
  · exact .inr fun children => by rw [h, h]; exact ⟨rfl, rfl⟩
  · exact .inr fun children => by rw [h, h]; exact ⟨rfl, rfl⟩
  · exact .inl fun children => by rw [h]; rfl
  · exact .inl fun children => by rw [h]; rfl

theorem mem_children_build {child : Node} (h : child ∈ (build v children).children) :
    child ∈ children := by
  rcases children_build v with hall | hnone
  · rwa [hall] at h
  · rw [(hnone children).1] at h
    cases h

theorem reason_build {u : UnknownNode} (h : build v children = .unknown u) :
    u.reason ≠ some .tooDeep := by
  obtain ⟨w, hw, hbuild⟩ | ⟨run, hbuild⟩ | ⟨f, hbuild⟩ | ⟨f, properties, hbuild⟩ :=
    build_cases v
  · rw [hbuild] at h
    cases h
    exact hw
  all_goals
    rw [hbuild] at h
    cases h

/-! ## The cut -/

/-- The tree that a value is decoded as, cut off: at the depth, what is too deep stands for each
node that can be too deep. -/
def cut : Nat → Value → Node → Node
  | 0, v, node => (tooDeep? v).getD node
  | depth + 1, v, node =>
    node.withChildren (List.zipWith (cut depth) (childItems v) node.children)

/-- **Decoding is decoding without a limit, cut off.** -/
theorem decode_eq_cut (levels : Nat) (v : Value) :
    decode levels v = cut levels v (decodeAll v) := by
  induction levels generalizing v with
  | zero => rw [cut, decodeAll_eq, decode_zero]
  | succ levels ih =>
    rw [decode_succ, cut, decodeAll_eq, withChildren_build, funext ih]
    rcases children_build v with hall | hnone
    · rw [hall, List.zipWith_map_right, List.zipWith_self]
    · rw [(hnone _).2, (hnone (List.zipWith ..)).2]

/-! ## How deep a decoded tree is -/

theorem atDepth_decode_of_lt {levels depth : Nat} (h : levels < depth) (v : Value) :
    (decode levels v).atDepth depth = [] := by
  obtain ⟨below, rfl⟩ : ∃ below, depth = below + 1 := Nat.exists_eq_add_one.mpr (by omega)
  rw [atDepth, List.flatMap_eq_nil_iff]
  induction levels generalizing below v with
  | zero =>
    obtain ⟨u, hu, -⟩ := exists_decode_zero v
    rw [hu]
    exact List.forall_mem_nil _
  | succ levels ih =>
    intro child hchild
    rw [decode_succ] at hchild
    obtain ⟨item, -, rfl⟩ := List.mem_map.mp (mem_children_build hchild)
    obtain ⟨deeper, rfl⟩ : ∃ deeper, below = deeper + 1 := Nat.exists_eq_add_one.mpr (by omega)
    rw [atDepth, List.flatMap_eq_nil_iff]
    exact ih item deeper (by omega)

theorem unknown_of_mem_atDepth {levels : Nat} {v : Value} {node : Node}
    (h : node ∈ (decode levels v).atDepth levels) :
    ∃ u, node = .unknown u ∧ ∃ fault, u.reason = some fault := by
  induction levels generalizing v with
  | zero =>
    rw [List.mem_singleton.mp h]
    exact exists_decode_zero v
  | succ levels ih =>
    obtain ⟨child, hchild, hnode⟩ := List.mem_flatMap.mp h
    rw [decode_succ] at hchild
    obtain ⟨item, -, rfl⟩ := List.mem_map.mp (mem_children_build hchild)
    exact ih hnode

theorem eq_of_tooDeep_mem_atDepth {levels depth : Nat} {v : Value} {u : UnknownNode}
    (h : .unknown u ∈ (decode levels v).atDepth depth) (hu : u.reason = some .tooDeep) :
    depth = levels := by
  induction levels generalizing depth v with
  | zero =>
    rcases Nat.eq_zero_or_pos depth with hzero | hpos
    · exact hzero
    · rw [atDepth_decode_of_lt hpos] at h
      cases h
  | succ levels ih =>
    cases depth with
    | zero =>
      have hroot := (List.mem_singleton.mp h).symm
      rw [decode_succ] at hroot
      exact absurd hu (reason_build hroot)
    | succ depth =>
      obtain ⟨child, hchild, hnode⟩ := List.mem_flatMap.mp h
      rw [decode_succ] at hchild
      obtain ⟨item, -, rfl⟩ := List.mem_map.mp (mem_children_build hchild)
      rw [ih hnode]

end Node

/-- **A scene is its unlimited decoding, cut at the greatest depth.** No node is deeper; those that
are as deep are unknown and say why; they alone are too deep; and no emitter whose own limit lies
below notices it. -/
theorem ofValue_eq_cut (v : Value) :
    Node.ofValue v = Node.cut maxSceneDepth v (Node.decodeAll v) ∧
    (∀ depth, maxSceneDepth < depth → (Node.ofValue v).atDepth depth = []) ∧
    (∀ node ∈ (Node.ofValue v).atDepth maxSceneDepth,
      ∃ u, node = .unknown u ∧ ∃ fault, u.reason = some fault) ∧
    (∀ depth u, .unknown u ∈ (Node.ofValue v).atDepth depth → u.reason = some .tooDeep →
      depth = maxSceneDepth) ∧
    ∀ (e : Emitter) (parent : Option Node) (limit limit' : Nat), maxSceneDepth < limit →
      maxSceneDepth < limit' →
        (e.withLimit limit).emit (Node.ofValue v) parent =
          (e.withLimit limit').emit (Node.ofValue v) parent := by
  have hdepth (depth : Nat) (h : maxSceneDepth < depth) : (Node.ofValue v).atDepth depth = [] :=
    Node.atDepth_decode_of_lt h v
  refine ⟨Node.decode_eq_cut maxSceneDepth v, hdepth, fun node => Node.unknown_of_mem_atDepth,
    fun depth u => Node.eq_of_tooDeep_mem_atDepth, fun e parent limit limit' h h' => ?_⟩
  have hlast := hdepth (maxSceneDepth + 1) (Nat.lt_succ_self _)
  have hmarkup := Emitter.markup?_eq_of_atDepth (e := e) hlast h (parent.bind e.childAxis?)
  have hmarkup' := Emitter.markup?_eq_of_atDepth (e := e) hlast h' (parent.bind e.childAxis?)
  rw [Emitter.emit_withLimit, Emitter.emit_withLimit, Emitter.textAt, Emitter.textAt, hmarkup,
    hmarkup']

def nested : Nat → Value → Value
  | 0, v => v
  | depth + 1, v =>
    .object [("type", .string "FRAME"), ("children", .array [nested depth v])]

theorem atDepth_decode_nested (depth levels : Nat) (v : Value) :
    (Node.decode (levels + depth) (nested depth v)).atDepth depth = [Node.decode levels v] := by
  induction depth with
  | zero => rfl
  | succ depth ih =>
    have hframe :
        Node.build (nested (depth + 1) v) [Node.decode (levels + depth) (nested depth v)] =
        .frame (.named "") [Node.decode (levels + depth) (nested depth v)] := rfl
    rw [← Nat.add_assoc, Node.decode_succ]
    exact (congrArg (Node.atDepth (depth + 1)) hframe).trans
      (by simp [Node.atDepth, Node.children, ih])

/-- A text inside of as many frames as may be, which is too deep. -/
theorem ofValue_eq_cut_nested :
    (∃ u, Node.unknown ⟨"", true, "TEXT", some .tooDeep⟩ = .unknown u ∧
      ∃ fault, u.reason = some fault) ∧
    256 = maxSceneDepth ∧
    (Node.ofValue (nested 256 (.object [("type", .string "TEXT")]))).atDepth 257 = [] ∧
    ((Emitter.ofRegistry .empty).withLimit 257).emit
        (Node.ofValue (nested 256 (.object [("type", .string "TEXT")]))) none =
      ((Emitter.ofRegistry .empty).withLimit 1000).emit
        (Node.ofValue (nested 256 (.object [("type", .string "TEXT")]))) none := by
  have hdeep : Node.unknown ⟨"", true, "TEXT", some .tooDeep⟩ ∈
      (Node.ofValue (nested 256 (.object [("type", .string "TEXT")]))).atDepth 256 := by
    have hlist := atDepth_decode_nested 256 0 (.object [("type", .string "TEXT")])
    rw [Nat.zero_add] at hlist
    rw [Node.ofValue, maxSceneDepth, hlist, Node.decode_zero _ [], List.mem_singleton]
    rfl
  obtain ⟨-, hdepth, hunknown, htooDeep, hemit⟩ :=
    ofValue_eq_cut (nested 256 (.object [("type", .string "TEXT")]))
  exact ⟨hunknown _ hdeep, htooDeep 256 _ hdeep rfl, hdepth 257 (by decide),
    hemit (.ofRegistry .empty) none 257 1000 (by decide) (by decide)⟩

end SceneMarkup
