import SceneMarkup.Proofs.Scene.DepthCut
import SceneMarkup.Proofs.Scene.WireRecords

/-!
# What a value is decoded as, and why not

The verdict on a value is the kind it is decoded as, or why it is not. `Judged` states the rule: the
checks in their order, each with what has to hold before it is made. Decoding keeps to it: it gives
a verdict that the rule allows (`judged_verdict_decode`), and the rule allows no other
(`verdict_decode_of_judged`).
-/

namespace SceneMarkup

open Json (Value Shape)

/-! ## The rule -/

/-- What a value is decoded as, and what is wrong otherwise. -/
inductive Verdict where
  | known (kind : NodeKind)
  /-- a kind of node that is not decoded further, for no fault -/
  | unrecognised
  | notAnObject
  | invalidVisibility
  | missingType
  | tooDeep
  | invalidField (label : String)
  | invalidChildren
  deriving DecidableEq, Repr

def DecodeFault.verdict : DecodeFault → Verdict
  | notAnObject => .notAnObject
  | missingType => .missingType
  | invalidVisibility => .invalidVisibility
  | invalidField label _ => .invalidField label
  | invalidChildren => .invalidChildren
  | tooDeep => .tooDeep

def Node.verdict : Node → Verdict
  | frame _ _ => .known .frame
  | text _ => .known .text
  | component _ _ _ => .known .component
  | unknown node => node.reason.elim .unrecognised DecodeFault.verdict

def NodeKind.tokens : NodeKind → List String
  | frame => ["FRAME"]
  | text => ["TEXT"]
  | component => ["INSTANCE", "InstanceNode"]

/-- The fields of a node of a kind can be read from the members of an object; an instance has those
of a frame. -/
def NodeKind.FieldsRead : NodeKind → List (String × Value) → Prop
  | text, members => TextRun.Reads members
  | frame, members | component, members => Frame.Reads members

/-- The verdict on an object that is to be a node of a kind: its fields come first, then its
children, then the properties of an instance. -/
inductive NodeKind.Judged (kind : NodeKind) (members : List (String × Value)) : Verdict → Prop where
  | known (hfields : kind.FieldsRead members) (hchildren : kind ≠ .text → ChildrenRead members)
      (hproperties : kind = .component → Property.MemberReads members) :
      Judged kind members (.known kind)
  | invalidField (hfields : ¬ kind.FieldsRead members) :
      Judged kind members (.invalidField kind.label)
  | invalidChildren (hfields : kind.FieldsRead members) (hkind : kind ≠ .text)
      (hchildren : ¬ ChildrenRead members) : Judged kind members .invalidChildren
  | invalidProperty (hfields : kind.FieldsRead members) (hchildren : ChildrenRead members)
      (hkind : kind = .component) (hproperties : ¬ Property.MemberReads members) :
      Judged kind members (.invalidField "INSTANCE")

def HasToken (members : List (String × Value)) (token : String) : Prop :=
  members.lookup "type" = some (.string token)

/-- The verdict on a value at a depth. -/
inductive Judged (depth : Nat) : Value → Verdict → Prop where
  | notAnObject {v : Value} (h : ∀ members, v ≠ .object members) : Judged depth v .notAnObject
  | invalidVisibility {members : List (String × Value)} (hvisible : ¬ VisibleReads members) :
      Judged depth (.object members) .invalidVisibility
  | missingType {members : List (String × Value)} (hvisible : VisibleReads members)
      (htype : ∀ token, ¬ HasToken members token) : Judged depth (.object members) .missingType
  | tooDeep {members : List (String × Value)} {token : String} (hvisible : VisibleReads members)
      (htype : HasToken members token) (hdepth : 256 ≤ depth) :
      Judged depth (.object members) .tooDeep
  | unrecognised {members : List (String × Value)} {token : String}
      (hvisible : VisibleReads members) (htype : HasToken members token) (hdepth : depth < 256)
      (htoken : ∀ kind : NodeKind, token ∉ kind.tokens) :
      Judged depth (.object members) .unrecognised
  | ofKind {members : List (String × Value)} {token : String} {kind : NodeKind} {verdict : Verdict}
      (hvisible : VisibleReads members) (htype : HasToken members token) (hdepth : depth < 256)
      (htoken : token ∈ kind.tokens) (h : kind.Judged members verdict) :
      Judged depth (.object members) verdict

/-! ## Decoding keeps to the rule -/

theorem NodeKind.ofToken?_eq_some_iff (token : String) (kind : NodeKind) :
    ofToken? token = some kind ↔ token ∈ kind.tokens := by
  unfold ofToken?
  split <;> cases kind <;> simp_all [tokens]

theorem kindToken?_eq_some_iff (members : List (String × Value)) (token : String) :
    kindToken? (.object members) = some token ↔ HasToken members token := by
  simp only [kindToken?, HasToken, Value.member?]
  cases members.lookup "type" with
  | none => simp
  | some v => cases v <;> simp [Value.string?]

def NodeKind.verdict (kind : NodeKind) (members : List (String × Value)) : Verdict :=
  (kind.fault? (.object members)).elim (.known kind) DecodeFault.verdict

theorem verdict_decode_object (depth : Nat) (members : List (String × Value)) :
    (Node.decode (maxSceneDepth - depth) (.object members)).verdict =
      match nodeVisible? (.object members), kindToken? (.object members) with
      | none, _ => .invalidVisibility
      | some _, none => .missingType
      | some _, some token =>
        if 256 ≤ depth then .tooDeep
        else (NodeKind.ofToken? token).elim .unrecognised (·.verdict members) := by
  cases hlevels : maxSceneDepth - depth with
  | zero =>
    have hdepth : 256 ≤ depth := by
      unfold maxSceneDepth at hlevels
      omega
    rw [Node.decode_zero _ []]
    unfold tooDeep? Node.build
    cases nodeVisible? (.object members) with
    | none => rfl
    | some visible =>
      cases kindToken? (.object members) with
      | none => rfl
      | some token =>
        simp only [if_pos hdepth]
        rfl
  | succ levels =>
    have hdepth : ¬ 256 ≤ depth := by
      unfold maxSceneDepth at hlevels
      omega
    rw [Node.decode_succ]
    unfold Node.build
    cases nodeVisible? (.object members) with
    | none => rfl
    | some visible =>
      cases kindToken? (.object members) with
      | none => rfl
      | some token =>
        simp only [if_neg hdepth]
        cases NodeKind.ofToken? token with
        | none => rfl
        | some kind =>
          simp only [Option.elim_some, NodeKind.verdict]
          cases kind.fault? (.object members) with
          | none => cases kind <;> rfl
          | some fault => rfl

theorem shapeFault?_eq_none {shape : Shape} {v : Value} (kind : NodeKind)
    (h : shape.mismatch? v = none) : shapeFault? kind shape v = none := by
  rw [shapeFault?, h]
  rfl

theorem exists_shapeFault? {shape : Shape} {v : Value} (kind : NodeKind)
    (h : shape.mismatch? v ≠ none) :
    ∃ message, shapeFault? kind shape v = some (.invalidField kind.label message) := by
  obtain ⟨m, hm⟩ := Option.ne_none_iff_exists'.mp h
  refine ⟨m.message, ?_⟩
  rw [shapeFault?, hm]
  rfl

theorem childrenFault?_of_read {members : List (String × Value)} (h : ChildrenRead members) :
    childrenFault? (.object members) = none := by
  have hvalues : childValues? (.object members) ≠ none := fun hnone =>
    (childValues?_eq_none_iff members).mp hnone h
  simpa [childrenFault?] using hvalues

theorem childrenFault?_of_not_read {members : List (String × Value)} (h : ¬ ChildrenRead members) :
    childrenFault? (.object members) = some .invalidChildren := by
  rw [childrenFault?, (childValues?_eq_none_iff members).mpr h]
  rfl

namespace NodeKind

variable {kind : NodeKind} {members : List (String × Value)} {verdict : Verdict}

def fieldsShape : NodeKind → Shape
  | text => TextRun.shape
  | frame | component => Frame.shape

theorem mismatch?_eq_none_iff (kind : NodeKind) (members : List (String × Value)) :
    kind.fieldsShape.mismatch? (.object members) = none ↔ kind.FieldsRead members := by
  cases kind with
  | text => exact text_mismatch?_eq_none_iff members
  | frame | component => exact frame_mismatch?_eq_none_iff members

def fault?AfterFields (kind : NodeKind) (members : List (String × Value)) : Option DecodeFault :=
  match kind with
  | frame => childrenFault? (.object members)
  | text => none
  | component =>
    (childrenFault? (.object members)).or (shapeFault? kind Property.bagShape (.object members))

theorem fault?_eq (kind : NodeKind) (members : List (String × Value)) :
    kind.fault? (.object members) =
      (shapeFault? kind kind.fieldsShape (.object members)).or (kind.fault?AfterFields members) := by
  cases kind with
  | frame => rfl
  | text => exact (Option.or_none).symm
  | component => exact Option.or_assoc

theorem judged_of_fieldsRead (hfields : kind.FieldsRead members) :
    kind.Judged members
      ((kind.fault?AfterFields members).elim (.known kind) DecodeFault.verdict) := by
  unfold fault?AfterFields
  cases kind with
  | text => exact .known hfields (absurd rfl) nofun
  | frame =>
    by_cases hchildren : ChildrenRead members
    · rw [childrenFault?_of_read hchildren]
      exact .known hfields (fun _ => hchildren) nofun
    · rw [childrenFault?_of_not_read hchildren]
      exact .invalidChildren hfields nofun hchildren
  | component =>
    by_cases hchildren : ChildrenRead members
    · rw [childrenFault?_of_read hchildren, Option.none_or]
      by_cases hproperties : Property.MemberReads members
      · rw [shapeFault?_eq_none .component ((bag_mismatch?_eq_none_iff members).mpr hproperties)]
        exact .known hfields (fun _ => hchildren) (fun _ => hproperties)
      · obtain ⟨message, hfault⟩ := exists_shapeFault? .component
          (mt (bag_mismatch?_eq_none_iff members).mp hproperties)
        rw [hfault]
        exact .invalidProperty hfields hchildren rfl hproperties
    · rw [childrenFault?_of_not_read hchildren]
      exact .invalidChildren hfields nofun hchildren

theorem judged_verdict (kind : NodeKind) (members : List (String × Value)) :
    kind.Judged members (kind.verdict members) := by
  unfold verdict
  rw [fault?_eq]
  by_cases hfields : kind.FieldsRead members
  · rw [shapeFault?_eq_none kind ((mismatch?_eq_none_iff kind members).mpr hfields), Option.none_or]
    exact judged_of_fieldsRead hfields
  · obtain ⟨message, hfault⟩ :=
      exists_shapeFault? kind (mt (mismatch?_eq_none_iff kind members).mp hfields)
    rw [hfault]
    exact .invalidField hfields

theorem Judged.unique {verdict' : Verdict} (h : kind.Judged members verdict)
    (h' : kind.Judged members verdict') : verdict = verdict' := by
  cases h with
  | known hfields hchildren hproperties =>
    cases h' with
    | known => rfl
    | invalidField hbad => exact absurd hfields hbad
    | invalidChildren _ hkind hbad => exact absurd (hchildren hkind) hbad
    | invalidProperty _ _ hkind hbad => exact absurd (hproperties hkind) hbad
  | invalidField hbad =>
    cases h' with
    | invalidField => rfl
    | known hfields | invalidChildren hfields | invalidProperty hfields =>
      exact absurd hfields hbad
  | invalidChildren hfields hkind hbad =>
    cases h' with
    | known _ hchildren => exact absurd (hchildren hkind) hbad
    | invalidField hbad => exact absurd hfields hbad
    | invalidChildren => rfl
    | invalidProperty _ hchildren => exact absurd hchildren hbad
  | invalidProperty hfields hchildren hkind hbad =>
    cases h' with
    | known _ _ hproperties => exact absurd (hproperties hkind) hbad
    | invalidField hbad => exact absurd hfields hbad
    | invalidChildren _ _ hbad => exact absurd hchildren hbad
    | invalidProperty => rfl

end NodeKind

theorem verdict_decode_of_not_object {v : Value} (h : ∀ members, v ≠ .object members)
    (levels : Nat) : (Node.decode levels v).verdict = .notAnObject := by
  cases v with
  | object members => exact absurd rfl (h members)
  | null | bool | integer | float | string | array => cases levels <;> rfl

theorem exists_nodeVisible? {members : List (String × Value)} (h : VisibleReads members) :
    ∃ visible, nodeVisible? (.object members) = some visible := by
  apply Option.ne_none_iff_exists'.mp
  intro hnone
  exact (nodeVisible?_eq_none_iff members).mp hnone h

theorem judged_verdict_decode (depth : Nat) (v : Value) :
    Judged depth v (Node.decode (maxSceneDepth - depth) v).verdict := by
  by_cases hobject : ∃ members, v = .object members
  · obtain ⟨members, rfl⟩ := hobject
    rw [verdict_decode_object]
    by_cases hvisible : VisibleReads members
    · obtain ⟨visible, hshown⟩ := exists_nodeVisible? hvisible
      rw [hshown]
      cases htype : kindToken? (.object members) with
      | none =>
        apply Judged.missingType hvisible
        intro token htoken
        rw [(kindToken?_eq_some_iff members token).mpr htoken] at htype
        exact nomatch htype
      | some token =>
        have htoken := (kindToken?_eq_some_iff members token).mp htype
        simp only
        by_cases hdepth : 256 ≤ depth
        · rw [if_pos hdepth]
          exact .tooDeep hvisible htoken hdepth
        · rw [if_neg hdepth]
          cases hkind : NodeKind.ofToken? token with
          | none =>
            apply Judged.unrecognised hvisible htoken (Nat.lt_of_not_le hdepth)
            intro kind hmem
            rw [(NodeKind.ofToken?_eq_some_iff token kind).mpr hmem] at hkind
            exact nomatch hkind
          | some kind =>
            have hmem := (NodeKind.ofToken?_eq_some_iff token kind).mp hkind
            exact .ofKind hvisible htoken (Nat.lt_of_not_le hdepth) hmem
              (kind.judged_verdict members)
    · rw [(nodeVisible?_eq_none_iff members).mpr hvisible]
      exact .invalidVisibility hvisible
  · have hnot (members : List (String × Value)) : v ≠ .object members :=
      fun h => hobject ⟨members, h⟩
    rw [verdict_decode_of_not_object hnot]
    exact .notAnObject hnot

theorem verdict_decode_of_token {members : List (String × Value)} {token : String}
    (hvisible : VisibleReads members) (htype : HasToken members token) (depth : Nat) :
    (Node.decode (maxSceneDepth - depth) (.object members)).verdict =
      if 256 ≤ depth then .tooDeep
      else (NodeKind.ofToken? token).elim .unrecognised (·.verdict members) := by
  obtain ⟨visible, hshown⟩ := exists_nodeVisible? hvisible
  rw [verdict_decode_object, hshown, (kindToken?_eq_some_iff members token).mpr htype]

theorem verdict_decode_of_judged {depth : Nat} {v : Value} {verdict : Verdict}
    (h : Judged depth v verdict) : (Node.decode (maxSceneDepth - depth) v).verdict = verdict := by
  cases h with
  | notAnObject hnot => exact verdict_decode_of_not_object hnot _
  | @invalidVisibility members hvisible =>
    rw [verdict_decode_object, (nodeVisible?_eq_none_iff members).mpr hvisible]
  | @missingType members hvisible htype =>
    obtain ⟨visible, hshown⟩ := exists_nodeVisible? hvisible
    have hnone : kindToken? (.object members) = none := by
      rw [Option.eq_none_iff_forall_ne_some]
      intro token htoken
      exact htype token ((kindToken?_eq_some_iff members token).mp htoken)
    rw [verdict_decode_object, hshown, hnone]
  | tooDeep hvisible htype hdepth =>
    rw [verdict_decode_of_token hvisible htype, if_pos hdepth]
  | @unrecognised members token hvisible htype hdepth htoken =>
    have hnone : NodeKind.ofToken? token = none := by
      rw [Option.eq_none_iff_forall_ne_some]
      intro kind hkind
      exact htoken kind ((NodeKind.ofToken?_eq_some_iff token kind).mp hkind)
    rw [verdict_decode_of_token hvisible htype, if_neg (Nat.not_le_of_lt hdepth), hnone]
    rfl
  | @ofKind members token kind verdict hvisible htype hdepth htoken h =>
    rw [verdict_decode_of_token hvisible htype, if_neg (Nat.not_le_of_lt hdepth),
      (NodeKind.ofToken?_eq_some_iff token kind).mpr htoken]
    exact (kind.judged_verdict members).unique h

end SceneMarkup
