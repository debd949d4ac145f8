import SceneMarkup.Proofs.Json.Members
import SceneMarkup.Proofs.Scene.Verdict

/-!
# What decoding does not look at

The verdict on an object depends on whether its fields, its children and its properties can be read,
and on its type (`ReadsAlike`); decoding looks at nothing else. So it does not matter which words
stand in a value beside its type (`Respelled`), nor what a member is that the kind does not read, nor
what the children are. `verdict_decode_iff` puts this together with the rule.
-/

namespace SceneMarkup

open Json (Value Shape OptionalMember putMember)
open Json.Value (IsText IsNumber IsFlag IsArray)

/-! ## Objects that are alike to the rule -/

/-- What the verdicts on two objects depend on is the same. -/
structure ReadsAlike (ms ns : List (String × Value)) : Prop where
  visible : VisibleReads ms ↔ VisibleReads ns
  type : ∀ token, HasToken ms token ↔ HasToken ns token
  kind : ∀ token, HasToken ms token → ∀ kind : NodeKind, token ∈ kind.tokens →
    (kind.FieldsRead ms ↔ kind.FieldsRead ns) ∧
    (kind ≠ .text → (ChildrenRead ms ↔ ChildrenRead ns)) ∧
    (kind = .component → (Property.MemberReads ms ↔ Property.MemberReads ns))

variable {ms ns : List (String × Value)}

theorem ReadsAlike.symm (h : ReadsAlike ms ns) : ReadsAlike ns ms where
  visible := h.visible.symm
  type token := (h.type token).symm
  kind token htype kind htoken := by
    obtain ⟨hfields, hchildren, hproperties⟩ := h.kind token ((h.type token).mpr htype) kind htoken
    exact ⟨hfields.symm, fun hkind => (hchildren hkind).symm, fun hkind => (hproperties hkind).symm⟩

theorem Judged.of_readsAlike {depth : Nat} {verdict : Verdict} (h : ReadsAlike ms ns)
    (hjudged : Judged depth (.object ms) verdict) : Judged depth (.object ns) verdict := by
  cases hjudged with
  | notAnObject hnot => exact absurd rfl (hnot ms)
  | invalidVisibility hvisible => exact .invalidVisibility (mt h.visible.mpr hvisible)
  | missingType hvisible htype =>
    exact .missingType (h.visible.mp hvisible) fun token => mt (h.type token).mpr (htype token)
  | tooDeep hvisible htype hdepth =>
    exact .tooDeep (h.visible.mp hvisible) ((h.type _).mp htype) hdepth
  | unrecognised hvisible htype hdepth htoken =>
    exact .unrecognised (h.visible.mp hvisible) ((h.type _).mp htype) hdepth htoken
  | ofKind hvisible htype hdepth htoken hkind =>
    obtain ⟨hfields, hchildren, hproperties⟩ := h.kind _ htype _ htoken
    refine .ofKind (h.visible.mp hvisible) ((h.type _).mp htype) hdepth htoken ?_
    cases hkind with
    | known hf hc hp =>
      exact .known (hfields.mp hf) (fun hne => (hchildren hne).mp (hc hne))
        fun heq => (hproperties heq).mp (hp heq)
    | invalidField hf => exact .invalidField (mt hfields.mpr hf)
    | invalidChildren hf hne hc =>
      exact .invalidChildren (hfields.mp hf) hne (mt (hchildren hne).mpr hc)
    | invalidProperty hf hc heq hp =>
      refine .invalidProperty (hfields.mp hf) ((hchildren ?_).mp hc) heq (mt (hproperties heq).mpr hp)
      rw [heq]
      exact nofun

theorem verdict_decode_congr (h : ReadsAlike ms ns) (depth : Nat) :
    (Node.decode (maxSceneDepth - depth) (.object ms)).verdict =
      (Node.decode (maxSceneDepth - depth) (.object ns)).verdict :=
  verdict_decode_of_judged ((judged_verdict_decode depth (.object ns)).of_readsAlike h.symm)

/-! ## Words -/

/-- Values that differ at most in the words in them: strings are other strings, and the rest is the
same. -/
inductive Respelled : Value → Value → Prop where
  | refl (v : Value) : Respelled v v
  | string (s t : String) : Respelled (.string s) (.string t)
  | array {vs ws : List Value} (h : List.Forall₂ Respelled vs ws) : Respelled (.array vs) (.array ws)
  | object {ms ns : List (String × Value)} (hkeys : ms.map Prod.fst = ns.map Prod.fst)
      (h : List.Forall₂ Respelled (ms.map Prod.snd) (ns.map Prod.snd)) :
      Respelled (.object ms) (.object ns)

/-- A property of values that does not depend on the words in them. -/
def IgnoresWords (P : Value → Prop) : Prop := ∀ {v w : Value}, Respelled v w → (P v ↔ P w)

namespace Respelled

abbrev Members (ms ns : List (String × Value)) : Prop :=
  List.Forall₂ (fun m n => m.1 = n.1 ∧ Respelled m.2 n.2) ms ns

theorem members {ms ns : List (String × Value)} (hkeys : ms.map Prod.fst = ns.map Prod.fst)
    (h : List.Forall₂ Respelled (ms.map Prod.snd) (ns.map Prod.snd)) : Members ms ns := by
  induction ms generalizing ns with
  | nil =>
    cases ns with
    | nil => exact .nil
    | cons n ns => simp at hkeys
  | cons m ms ih =>
    cases ns with
    | nil => simp at hkeys
    | cons n ns =>
      simp only [List.map_cons, List.cons.injEq, List.forall₂_cons] at hkeys h
      exact .cons ⟨hkeys.1, h.1⟩ (ih hkeys.2 h.2)

theorem isText : IgnoresWords IsText := by
  intro v w h
  cases h <;> simp [IsText]

theorem isNumber : IgnoresWords IsNumber := by
  intro v w h
  cases h <;> simp [IsNumber]

theorem isArray : IgnoresWords IsArray := by
  intro v w h
  cases h <;> simp [IsArray]

theorem isFlag : IgnoresWords IsFlag := by
  intro v w h
  cases h <;> simp [IsFlag]

theorem orNull {P : Value → Prop} (hP : IgnoresWords P) : IgnoresWords (Value.OrNull P) := by
  intro v w h
  unfold Value.OrNull
  rw [hP h]
  cases h <;> simp

theorem optionalMember {P : Value → Prop} (hP : IgnoresWords P) (h : Members ms ns)
    (key : String) : OptionalMember P ms key ↔ OptionalMember P ns key := by
  unfold OptionalMember
  induction h with
  | nil => rfl
  | @cons m n ms ns hmember _ ih =>
    obtain ⟨k, v⟩ := m
    obtain ⟨l, w⟩ := n
    obtain ⟨rfl, hvalue⟩ := hmember
    simp only [List.mem_cons, Prod.mk.injEq, or_imp, forall_and, and_imp]
    rw [ih]
    apply and_congr_left'
    constructor
    · rintro hv _ hkey rfl
      exact (orNull hP hvalue).mp (hv v hkey rfl)
    · rintro hw _ hkey rfl
      exact (orNull hP hvalue).mpr (hw w hkey rfl)

theorem lineHeight : IgnoresWords LineHeight.Reads := by
  intro v w h
  cases h with
  | refl => rfl
  | string s t =>
    constructor
    · rintro ⟨⟩
    · rintro ⟨⟩
  | array h =>
    constructor
    · rintro (_ | ⟨hunit, hvalue⟩)
      rcases h with _ | ⟨hu, _ | ⟨hv, ⟨⟩⟩⟩
      exact .array ((orNull isText hu).mp hunit) ((orNull isNumber hv).mp hvalue)
    · rintro (_ | ⟨hunit, hvalue⟩)
      rcases h with _ | ⟨hu, _ | ⟨hv, ⟨⟩⟩⟩
      exact .array ((orNull isText hu).mpr hunit) ((orNull isNumber hv).mpr hvalue)
  | object hkeys h =>
    have hmembers := members hkeys h
    constructor
    · rintro ⟨hunit, hvalue⟩
      exact .object ((optionalMember isText hmembers _).mp hunit)
        ((optionalMember isNumber hmembers _).mp hvalue)
    · rintro ⟨hunit, hvalue⟩
      exact .object ((optionalMember isText hmembers _).mpr hunit)
        ((optionalMember isNumber hmembers _).mpr hvalue)

theorem property : IgnoresWords Property.Reads := by
  intro v w h
  cases h with
  | refl => rfl
  | string s t =>
    constructor
    · rintro ⟨⟩
    · rintro ⟨⟩
  | array h =>
    constructor
    · rintro (_ | ⟨htype, hvalue⟩)
      rcases h with _ | ⟨ht, hrest⟩
      exact .array ((orNull isText ht).mp htype) (hrest.length_eq ▸ hvalue)
    · rintro (_ | ⟨htype, hvalue⟩)
      rcases h with _ | ⟨ht, hrest⟩
      exact .array ((orNull isText ht).mpr htype) (hrest.length_eq ▸ hvalue)
  | object hkeys h =>
    have hmembers := members hkeys h
    constructor
    · rintro ⟨htype⟩
      exact .object ((optionalMember isText hmembers _).mp htype)
    · rintro ⟨htype⟩
      exact .object ((optionalMember isText hmembers _).mpr htype)

theorem bag : IgnoresWords Property.BagReads := by
  intro v w h
  unfold Property.BagReads
  cases h with
  | refl => rfl
  | string s t => simp
  | array h => simp
  | object hkeys h =>
    simp only [Value.object.injEq, exists_eq_left']
    have hmembers := members hkeys h
    clear hkeys h
    induction hmembers with
    | nil => rfl
    | cons hmember _ ih =>
      rw [List.forall_mem_cons, List.forall_mem_cons]
      exact and_congr (property hmember.2) ih

theorem lookup (h : Members ms ns) (key : String) :
    Option.Rel Respelled (ms.lookup key) (ns.lookup key) := by
  induction h with
  | nil => exact .none
  | @cons m n ms ns hmember _ ih =>
    obtain ⟨k, v⟩ := m
    obtain ⟨l, w⟩ := n
    obtain ⟨rfl, hvalue⟩ := hmember
    simp only [List.lookup_cons]
    cases key == k with
    | true => exact .some hvalue
    | false => exact ih

/-- A member that is looked up reads the same if it does so whatever words are in it. -/
theorem lookup_iff {P : Value → Prop} (hP : IgnoresWords P) (h : Members ms ns) (key : String) :
    (∀ v, ms.lookup key = some v → v.OrNull P) ↔ ∀ v, ns.lookup key = some v → v.OrNull P := by
  have hrel := lookup h key
  generalize ms.lookup key = found at hrel ⊢
  generalize ns.lookup key = found' at hrel ⊢
  cases hrel with
  | none => simp
  | some hvalue => simp [orNull hP hvalue]

end Respelled

/-! ## Members that are read -/

def NodeKind.fieldKeys : NodeKind → List String
  | text => ["name", "characters", "fontSize", "lineHeight"]
  | frame | component => Frame.textKeys ++ Frame.numberKeys

def NodeKind.memberKeys : NodeKind → List String
  | text => text.fieldKeys
  | frame => "children" :: frame.fieldKeys
  | component => "componentProperties" :: "children" :: component.fieldKeys

theorem NodeKind.FieldsRead.of_members {kind : NodeKind} (hread : kind.FieldsRead ms)
    (h : ∀ P, IgnoresWords P → ∀ key ∈ kind.fieldKeys,
      OptionalMember P ms key → OptionalMember P ns key) : kind.FieldsRead ns := by
  have hframe (hread : Frame.Reads ms) (h : ∀ P, IgnoresWords P →
      ∀ key ∈ Frame.textKeys ++ Frame.numberKeys,
        OptionalMember P ms key → OptionalMember P ns key) : Frame.Reads ns :=
    ⟨fun key hkey => h _ Respelled.isText key (List.mem_append_left _ hkey) (hread.texts key hkey),
      fun key hkey =>
        h _ Respelled.isNumber key (List.mem_append_right _ hkey) (hread.numbers key hkey)⟩
  cases kind with
  | frame | component => exact hframe hread h
  | text =>
    refine ⟨fun key hkey => h _ Respelled.isText key ?_ (hread.texts key hkey),
      h _ Respelled.isNumber "fontSize" (by decide) hread.fontSize,
      h _ Respelled.lineHeight "lineHeight" (by decide) hread.lineHeight⟩
    simp only [NodeKind.fieldKeys, List.mem_cons] at hkey ⊢
    tauto

theorem NodeKind.ne_children_of_mem_fieldKeys {kind : NodeKind} {key : String}
    (h : key ∈ kind.fieldKeys) : key ≠ "children" := by
  rintro rfl
  revert h
  cases kind <;> decide

theorem ReadsAlike.of_members (hvisible : VisibleReads ms ↔ VisibleReads ns)
    (htype : ∀ token, HasToken ms token ↔ HasToken ns token)
    (h : ∀ token, HasToken ms token → ∀ kind : NodeKind, token ∈ kind.tokens →
      (∀ key ∈ kind.memberKeys, key ≠ "children" → ∀ P, IgnoresWords P →
        (OptionalMember P ms key ↔ OptionalMember P ns key)) ∧
      ("children" ∈ kind.memberKeys → (ChildrenRead ms ↔ ChildrenRead ns))) :
    ReadsAlike ms ns where
  visible := hvisible
  type := htype
  kind token htoken kind hkind := by
    obtain ⟨hmembers, hchildren⟩ := h token htoken kind hkind
    have hfields (key : String) (hkey : key ∈ kind.fieldKeys) (P : Value → Prop)
        (hP : IgnoresWords P) : OptionalMember P ms key ↔ OptionalMember P ns key := by
      refine hmembers key ?_ (NodeKind.ne_children_of_mem_fieldKeys hkey) P hP
      cases kind with
      | text => exact hkey
      | frame => exact .tail _ hkey
      | component => exact .tail _ (.tail _ hkey)
    refine ⟨⟨fun hread => hread.of_members fun P hP key hkey => (hfields key hkey P hP).mp,
      fun hread => hread.of_members fun P hP key hkey => (hfields key hkey P hP).mpr⟩, ?_, ?_⟩
    · intro hne
      apply hchildren
      cases kind with
      | text => exact absurd rfl hne
      | frame => exact .head _
      | component => exact .tail _ (.head _)
    · rintro rfl
      exact hmembers _ (.head _) (by decide) _ Respelled.bag

/-! ## The verdict, and what it does not depend on -/

/-- Words in a value do not matter if its type stays. -/
theorem verdict_decode_of_respelled {v w : Value} (h : Respelled v w)
    (htype : v.member? "type" = w.member? "type") (depth : Nat) :
    (Node.decode (maxSceneDepth - depth) v).verdict =
      (Node.decode (maxSceneDepth - depth) w).verdict := by
  cases h with
  | refl => rfl
  | string | array =>
    exact (verdict_decode_of_not_object (by simp) _).trans
      (verdict_decode_of_not_object (by simp) _).symm
  | object hkeys h =>
    have hmembers := Respelled.members hkeys h
    apply verdict_decode_congr
    apply ReadsAlike.of_members (Respelled.lookup_iff Respelled.isFlag hmembers "visible")
    · intro token
      unfold HasToken
      exact Eq.congr_left htype
    · intro token _ kind _
      exact ⟨fun key _ _ P hP => Respelled.optionalMember hP hmembers key,
        fun _ => Respelled.lookup_iff Respelled.isArray hmembers "children"⟩

theorem lookup_putMember_of_ne {key k : String} (h : k ≠ key) (value : Value)
    (members : List (String × Value)) :
    (putMember key value members).lookup k = members.lookup k := by
  rw [Json.lookup_putMember, if_neg h]

theorem readsAlike_putMember {members : List (String × Value)} {key : String}
    (htype : key ≠ "type") (hvisible : key ≠ "visible")
    (hkey : ∀ token, HasToken members token → ∀ kind : NodeKind, token ∈ kind.tokens →
      key ∉ kind.memberKeys) (value : Value) :
    ReadsAlike members (putMember key value members) := by
  apply ReadsAlike.of_members
  · unfold VisibleReads
    rw [lookup_putMember_of_ne hvisible.symm]
  · intro token
    unfold HasToken
    rw [lookup_putMember_of_ne htype.symm]
  · intro token htoken kind hkind
    have hunread := hkey token htoken kind hkind
    constructor
    · intro k hk _ P _
      have hne : k ≠ key := fun h => hunread (h ▸ hk)
      exact (Json.optionalMember_putMember hne value members).symm
    · intro hchildren
      have hne : "children" ≠ key := fun h => hunread (h ▸ hchildren)
      unfold ChildrenRead
      rw [lookup_putMember_of_ne hne]

theorem readsAlike_putChildren (items items' : List Value) (members : List (String × Value)) :
    ReadsAlike (putMember "children" (.array items) members)
      (putMember "children" (.array items') members) := by
  have hlookup (items : List Value) {key : String} (h : key ≠ "children") :
      (putMember "children" (.array items) members).lookup key = members.lookup key :=
    lookup_putMember_of_ne h _ members
  have hread (items : List Value) :
      ChildrenRead (putMember "children" (.array items) members) := by
    intro v hv
    rw [Json.lookup_putMember, if_pos rfl] at hv
    exact .inr ⟨items, (Option.some.inj hv).symm⟩
  apply ReadsAlike.of_members
  · unfold VisibleReads
    rw [hlookup items (by decide), hlookup items' (by decide)]
  · intro token
    unfold HasToken
    rw [hlookup items (by decide), hlookup items' (by decide)]
  · intro token _ kind _
    refine ⟨fun key _ hne P _ => ?_, fun _ => iff_of_true (hread items) (hread items')⟩
    rw [Json.optionalMember_putMember hne, Json.optionalMember_putMember hne]

/-- **Which values are decoded as a known kind, and why the others are not**: at every depth, the
verdict on a value is the one of the rule `Judged`. So it does not depend on any word beside the
type, on any member that the kind does not read, such as the fills of a frame, or on what the
children are. -/
theorem verdict_decode_iff (depth : Nat) :
    (∀ (v : Value) (verdict : Verdict),
      (Node.decode (maxSceneDepth - depth) v).verdict = verdict ↔ Judged depth v verdict) ∧
    (∀ v w : Value, Respelled v w → v.member? "type" = w.member? "type" →
      (Node.decode (maxSceneDepth - depth) v).verdict =
        (Node.decode (maxSceneDepth - depth) w).verdict) ∧
    (∀ (members : List (String × Value)) (key : String), key ≠ "type" → key ≠ "visible" →
      (∀ token, HasToken members token → ∀ kind : NodeKind, token ∈ kind.tokens →
        key ∉ kind.memberKeys) →
      ∀ value, (Node.decode (maxSceneDepth - depth) (.object (putMember key value members))).verdict =
        (Node.decode (maxSceneDepth - depth) (.object members)).verdict) ∧
    (∀ (members : List (String × Value)) (fills : Value),
      (Node.decode (maxSceneDepth - depth) (.object (putMember "fills" fills members))).verdict =
        (Node.decode (maxSceneDepth - depth) (.object members)).verdict) ∧
    ∀ (members : List (String × Value)) (items items' : List Value),
      (Node.decode (maxSceneDepth - depth)
          (.object (putMember "children" (.array items) members))).verdict =
        (Node.decode (maxSceneDepth - depth)
          (.object (putMember "children" (.array items') members))).verdict := by
  refine ⟨?_, ?_, ?_, ?_, ?_⟩
  · intro v verdict
    constructor
    · rintro rfl
      exact judged_verdict_decode depth v
    · exact verdict_decode_of_judged
  · exact fun v w h htype => verdict_decode_of_respelled h htype depth
  · intro members key htype hvisible hkey value
    exact (verdict_decode_congr (readsAlike_putMember htype hvisible hkey value) depth).symm
  · intro members fills
    apply Eq.symm
    apply verdict_decode_congr
    apply readsAlike_putMember (by decide) (by decide)
    intro _ _ kind _
    cases kind <;> decide
  · exact fun members items items' =>
      verdict_decode_congr (readsAlike_putChildren items items' members) depth

/-- A frame is one whichever word stands for its layout, and the width of a text does not matter. -/
theorem verdict_decode_iff_frame :
    (Node.decode 253 (.object [("type", .string "FRAME"), ("layoutMode", .string "GRID")])).verdict =
      .known .frame ∧
    (Node.decode 253 (.object [("type", .string "TEXT"), ("width", .string "wide")])).verdict =
      (Node.decode 253 (.object [("type", .string "TEXT")])).verdict := by
  obtain ⟨hrule, hwords, hunread, -⟩ := verdict_decode_iff 3
  constructor
  · have hword : Respelled
        (.object [("type", .string "FRAME"), ("layoutMode", .string "GRID")])
        (.object [("type", .string "FRAME"), ("layoutMode", .string "VERTICAL")]) :=
      .object rfl (.cons (.refl _) (.cons (.string _ _) .nil))
    apply (hwords _ _ hword rfl).trans
    apply (hrule _ _).mpr
    refine @Judged.ofKind _ _ "FRAME" .frame _ ?_ rfl (by decide) (.head _) (.known ?_ ?_ nofun)
    · intro v hv
      exact nomatch show none = some v from hv
    · constructor
      · intro key _ v hv
        obtain ⟨-, rfl⟩ | ⟨-, rfl⟩ : (key = "type" ∧ v = .string "FRAME") ∨
            (key = "layoutMode" ∧ v = .string "VERTICAL") := by simpa using hv
        · exact .inr ⟨_, rfl⟩
        · exact .inr ⟨_, rfl⟩
      · intro key hkey v hv
        obtain ⟨rfl, -⟩ | ⟨rfl, -⟩ : (key = "type" ∧ v = .string "FRAME") ∨
            (key = "layoutMode" ∧ v = .string "VERTICAL") := by simpa using hv
        · exact absurd hkey (by decide)
        · exact absurd hkey (by decide)
    · intro _ v hv
      exact nomatch show none = some v from hv
  · refine hunread [("type", .string "TEXT")] "width" (by decide) (by decide) ?_ (.string "wide")
    intro token htoken kind hkind
    obtain rfl : "TEXT" = token := by simpa [HasToken] using htoken
    cases kind with
    | text => decide
    | frame | component => simp [NodeKind.tokens] at hkind

end SceneMarkup
