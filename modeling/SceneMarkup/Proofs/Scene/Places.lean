import Mathlib.Data.List.Forall2
import SceneMarkup.Proofs.Json.DistinctKeys
import SceneMarkup.Proofs.Scene.Verdict

/-!
# Places of a scene

A value of a scene stands at a place (`Place`), and decoding reads an object there by its keys
(`Place.Reads`): the members of a node, which depend on its kind, and those of the records in it.
Two values agree at a place (`Place.Agree`) if they differ, anywhere inside, at most in the order of
members and in members that are not read. Only the entries of a property bag and all that is inside
of a property's value keep their order (`Place.IsOrdered`).

Agreement is kept by reordering (`Agree.of_perm`), by putting members that are not read
(`Agree.of_unread`) and by putting members that agree (`Agree.put`), and it carries on through
chains of these (`Agree.trans`).
-/

namespace SceneMarkup

open Json (Value Shape DistinctKeys putMember)

/-! ## What is read -/

def Json.Shape.memberShape? : Shape → String → Option Shape
  | .record _ fields, key => (fields.find? (·.1 = key)).map (·.2.2)
  | .table entry, _ => entry
  | .anything, _ => Shape.anything
  | _, _ => none

def Json.Shape.itemShape? : Shape → Nat → Option Shape
  | .record _ fields, i => fields[i]?.map (·.2.2)
  | .anything, _ => Shape.anything
  | _, _ => none

/-- The records that the members of a node of a kind make up. -/
def NodeKind.shapes : NodeKind → List Shape
  | frame => [Frame.shape]
  | text => [TextRun.shape]
  | component => [Frame.shape, Property.bagShape]

/-- Where a value stands. -/
inductive Place where
  | node
  | children
  | fills
  | shape (s : Shape)

namespace Place

/-- The member of a key is read, if there is one, in an object of these members at a place; it
stands at the place that is given last. -/
inductive Reads (ms : List (String × Value)) : Place → String → Place → Prop where
  | name : Reads ms .node "name" (.shape .text)
  | type : Reads ms .node "type" (.shape .text)
  | visible : Reads ms .node "visible" (.shape .flag)
  | record {token : String} {kind : NodeKind} {s t : Shape} {key : String}
      (htype : HasToken ms token) (hkind : token ∈ kind.tokens) (hs : s ∈ kind.shapes)
      (hfield : s.memberShape? key = some t) : Reads ms .node key (.shape t)
  | fills {token : String} {kind : NodeKind} (htype : HasToken ms token)
      (hkind : token ∈ kind.tokens) (hcontainer : kind ≠ .text) : Reads ms .node "fills" .fills
  | children {token : String} {kind : NodeKind} (htype : HasToken ms token)
      (hkind : token ∈ kind.tokens) (hcontainer : kind ≠ .text) :
      Reads ms .node "children" .children
  | field {s t : Shape} {key : String} (hfield : s.memberShape? key = some t) :
      Reads ms (.shape s) key (.shape t)

/-- What is read of a node depends on its type, and what is read elsewhere on nothing. -/
theorem Reads.of_hasToken {ms ns : List (String × Value)} {p q : Place} {key : String}
    (hread : p.Reads ms key q)
    (htoken : p = .node → ∀ token, HasToken ms token → HasToken ns token) :
    p.Reads ns key q := by
  cases hread with
  | name => exact .name
  | type => exact .type
  | visible => exact .visible
  | record htype hkind hs hfield => exact .record (htoken rfl _ htype) hkind hs hfield
  | fills htype hkind hcontainer => exact .fills (htoken rfl _ htype) hkind hcontainer
  | children htype hkind hcontainer => exact .children (htoken rfl _ htype) hkind hcontainer
  | field hfield => exact .field hfield

theorem Reads.eq_children {ms : List (String × Value)} {q : Place}
    (h : Reads ms .node "children" q) : q = .children := by
  generalize hkey : "children" = key at h
  cases h with
  | children => rfl
  | name | type | visible | fills => exact absurd hkey (by decide)
  | @record token kind s t _ htype hkind hs hfield =>
    subst hkey
    have hnone : ∀ s ∈ kind.shapes, (s.memberShape? "children").isNone := by
      cases kind <;> decide
    have hshape := hnone s hs
    rw [hfield] at hshape
    cases hshape

theorem not_reads_of_kind {ms : List (String × Value)} {token : String} {kind : NodeKind}
    {key : String} (htype : HasToken ms token) (hkind : token ∈ kind.tokens)
    (hkey : key ∉ ["name", "type", "visible", "fills", "children"])
    (hshapes : ∀ s ∈ kind.shapes, (s.memberShape? key).isNone) (q : Place) :
    ¬ Reads ms .node key q := by
  intro hread
  cases hread with
  | name | type | visible | fills | children => exact hkey (by decide)
  | @record token' kind' s t _ htype' hkind' hs hfield =>
    obtain rfl : token' = token := by simpa using htype'.symm.trans htype
    have hsame : kind' = kind := by
      simpa [(NodeKind.ofToken?_eq_some_iff token' kind).mpr hkind] using
        ((NodeKind.ofToken?_eq_some_iff token' kind').mpr hkind').symm
    have hnone := hshapes s (hsame ▸ hs)
    rw [hfield] at hnone
    cases hnone

inductive ReadsItem : Place → Nat → Place → Prop where
  | child (i : Nat) : ReadsItem .children i .node
  | fill (i : Nat) : ReadsItem .fills i (.shape Fill.shape)
  | field {s t : Shape} {i : Nat} (hfield : s.itemShape? i = some t) :
      ReadsItem (.shape s) i (.shape t)

/-- The order of members counts: in a table, as it is the one of the entries, and inside of a value
that is taken as it is. -/
def IsOrdered : Place → Prop
  | .shape (.table _) | .shape .anything => True
  | _ => False

/-- Values that differ at most in the order of members, where it does not count, and in what is not
read. No object has two members of one key. -/
inductive Agree : Place → Value → Value → Prop where
  | refl (p : Place) (v : Value) : Agree p v v
  | object {p : Place} {ms ns : List (String × Value)} (hms : DistinctKeys ms)
      (hns : DistinctKeys ns) (horder : p.IsOrdered → ms.map Prod.fst = ns.map Prod.fst)
      (hfound : ∀ key q, p.Reads ms key q → (ms.lookup key).isSome = (ns.lookup key).isSome)
      (hread : ∀ key q v w, p.Reads ms key q → ms.lookup key = some v → ns.lookup key = some w →
        Agree q v w) :
      Agree p (.object ms) (.object ns)
  | array {p : Place} {vs ws : List Value} (hlength : vs.length = ws.length)
      (hread : ∀ i q v w, p.ReadsItem i q → vs[i]? = some v → ws[i]? = some w → Agree q v w) :
      Agree p (.array vs) (.array ws)

namespace Agree

variable {p q : Place} {v w : Value} {ms ns : List (String × Value)}

/-! ## Values that are not taken apart -/

theorem string? (h : Agree p v w) : v.string? = w.string? := by
  cases h <;> rfl

theorem number? (h : Agree p v w) : v.number? = w.number? := by
  cases h <;> rfl

theorem flag? (h : Agree p v w) : v.flag? = w.flag? := by
  cases h <;> rfl

theorem eq_string_iff (h : Agree p v w) (s : String) : v = .string s ↔ w = .string s := by
  cases h <;> simp

theorem eq_null_iff (h : Agree p v w) : v = .null ↔ w = .null := by
  cases h <;> simp

/-! ## Members -/

theorem rel_refl (p : Place) (found : Option Value) : Option.Rel (Agree p) found found := by
  cases found with
  | none => exact .none
  | some v => exact .some (.refl p v)

theorem member? (h : Agree p (.object ms) (.object ns)) {key : String} (hread : p.Reads ms key q) :
    Option.Rel (Agree q) ((Value.object ms).member? key) ((Value.object ns).member? key) := by
  change Option.Rel (Agree q) (ms.lookup key) (ns.lookup key)
  cases h with
  | refl => exact rel_refl q _
  | object _ _ _ hfound hagree =>
    have hsome := hfound key q hread
    have hvalues := fun v w => hagree key q v w hread
    generalize ms.lookup key = found at hsome hvalues ⊢
    generalize ns.lookup key = found' at hsome hvalues ⊢
    cases found with
    | none =>
      cases found' with
      | none => exact .none
      | some w => cases hsome
    | some v =>
      cases found' with
      | none => cases hsome
      | some w => exact .some (hvalues v w rfl rfl)

theorem item {vs ws : List Value} (h : Agree p (.array vs) (.array ws)) {i : Nat}
    (hread : p.ReadsItem i q) : Option.Rel (Agree q) vs[i]? ws[i]? := by
  cases h with
  | refl => exact rel_refl q _
  | array hlength hagree =>
    rcases Nat.lt_or_ge i vs.length with hi | hi
    · have hv := List.getElem?_eq_getElem hi
      have hw := List.getElem?_eq_getElem (hlength ▸ hi)
      rw [hv, hw]
      exact .some (hagree i q _ _ hread hv hw)
    · rw [List.getElem?_eq_none hi, List.getElem?_eq_none (hlength ▸ hi)]
      exact .none

theorem items {vs ws : List Value} (h : Agree p (.array vs) (.array ws))
    (hread : ∀ i, p.ReadsItem i q) : List.Forall₂ (Agree q) vs ws := by
  cases h with
  | refl => exact List.forall₂_same.mpr fun v _ => .refl q v
  | array hlength hagree =>
    refine List.forall₂_iff_get.mpr ⟨hlength, fun i hi hi' => ?_⟩
    exact hagree i q _ _ (hread i) (List.getElem?_eq_getElem hi) (List.getElem?_eq_getElem hi')

theorem hasToken_iff (h : Agree .node (.object ms) (.object ns)) (token : String) :
    HasToken ms token ↔ HasToken ns token := by
  have htype : Option.Rel _ (ms.lookup "type") (ns.lookup "type") := h.member? .type
  unfold HasToken
  generalize ms.lookup "type" = found at htype ⊢
  generalize ns.lookup "type" = found' at htype ⊢
  cases htype with
  | none => simp
  | some hvalue => rw [Option.some_inj, Option.some_inj, hvalue.eq_string_iff]

theorem reads_iff (h : Agree p (.object ms) (.object ns)) (key : String) :
    p.Reads ms key q ↔ p.Reads ns key q := by
  have htoken (hnode : p = .node) (token : String) : HasToken ms token ↔ HasToken ns token := by
    subst hnode
    exact h.hasToken_iff token
  exact ⟨fun hread => hread.of_hasToken fun hnode token => (htoken hnode token).mp,
    fun hread => hread.of_hasToken fun hnode token => (htoken hnode token).mpr⟩

/-- Objects that agree at a place agree at another one if less is read there. -/
theorem mono (h : Agree p (.object ms) (.object ns)) (horder : ¬ q.IsOrdered)
    (hless : ∀ key r, q.Reads ms key r → p.Reads ms key r) :
    Agree q (.object ms) (.object ns) := by
  cases h with
  | refl => exact .refl q _
  | object hms hns _ hfound hread =>
    exact .object hms hns (fun h => absurd h horder)
      (fun key r hr => hfound key r (hless key r hr))
      fun key r v w hr => hread key r v w (hless key r hr)

theorem symm (h : Agree p v w) : Agree p w v := by
  induction h with
  | refl p v => exact .refl p v
  | @object p ms ns hms hns horder hfound hread ih =>
    have hagree : Agree p (.object ms) (.object ns) := .object hms hns horder hfound hread
    exact .object hns hms (fun h => (horder h).symm)
      (fun key q hq => (hfound key q ((hagree.reads_iff key).mpr hq)).symm)
      fun key q w v hq hw hv => ih key q v w ((hagree.reads_iff key).mpr hq) hv hw
  | array hlength _ ih => exact .array hlength.symm fun i q w v hq hw hv => ih i q v w hq hv hw

/-! ## What agrees -/

theorem trans {u : Value} (h : Agree p u v) (h' : Agree p v w) : Agree p u w := by
  induction h generalizing w with
  | refl => exact h'
  | @object p ms ns hms hns horder hfound hread ih =>
    have hagree : Agree p (.object ms) (.object ns) := .object hms hns horder hfound hread
    cases h' with
    | refl => exact hagree
    | @object _ _ os _ hos horder' hfound' hread' =>
      refine .object hms hos (fun h => (horder h).trans (horder' h)) ?_ ?_
      · intro key q hq
        exact (hfound key q hq).trans (hfound' key q ((hagree.reads_iff key).mp hq))
      · intro key q a c hq ha hc
        have hsome : (ns.lookup key).isSome := hfound key q hq ▸ ha ▸ rfl
        obtain ⟨b, hb⟩ := Option.isSome_iff_exists.mp hsome
        exact ih key q a b hq ha hb (hread' key q b c ((hagree.reads_iff key).mp hq) hb hc)
  | @array p vs ws hlength hread ih =>
    cases h' with
    | refl => exact .array hlength hread
    | @array _ _ xs hlength' hread' =>
      refine .array (hlength.trans hlength') fun i q a c hq ha hc => ?_
      obtain ⟨hi, -⟩ := List.getElem?_eq_some_iff.mp ha
      have hb : ws[i]? = some ws[i] := List.getElem?_eq_getElem (hlength ▸ hi)
      exact ih i q a _ hq ha hb (hread' i q _ c hq hb hc)

theorem of_perm (h : ms.Perm ns) (hms : DistinctKeys ms) (horder : ¬ p.IsOrdered) :
    Agree p (.object ms) (.object ns) := by
  have hlookup := Json.lookup_eq_of_perm h hms
  refine .object hms ((h.map Prod.fst).nodup hms) (fun h => absurd h horder) ?_ ?_
  · intro key q _
    rw [hlookup key]
  · intro key q v w _ hv hw
    obtain rfl : v = w := Option.some.inj (hv.symm.trans ((hlookup key).trans hw))
    exact .refl q v

theorem of_unread {key : String} (hunread : ∀ q, ¬ p.Reads ms key q) (hms : DistinctKeys ms)
    (horder : ¬ p.IsOrdered) (value : Value) :
    Agree p (.object ms) (.object (putMember key value ms)) := by
  have hlookup (k : String) (q : Place) (hq : p.Reads ms k q) :
      (putMember key value ms).lookup k = ms.lookup k := by
    rw [Json.lookup_putMember, if_neg fun heq : k = key => hunread q (heq ▸ hq)]
  refine .object hms (hms.putMember key value) (fun h => absurd h horder) ?_ ?_
  · intro k q hq
    rw [hlookup k q hq]
  · intro k q v w hq hv hw
    obtain rfl : v = w := Option.some.inj (hv.symm.trans ((hlookup k q hq).symm.trans hw))
    exact .refl q v

theorem put {key : String} (hms : DistinctKeys ms)
    (h : ∀ q, p.Reads (putMember key v ms) key q → Agree q v w) :
    Agree p (.object (putMember key v ms)) (.object (putMember key w ms)) := by
  refine .object (hms.putMember key v) (hms.putMember key w)
    (fun _ => Json.keys_putMember key v w ms) ?_ ?_
  · intro k q _
    rw [Json.lookup_putMember, Json.lookup_putMember]
    split <;> rfl
  · intro k q a b hq ha hb
    rw [Json.lookup_putMember] at ha hb
    split at ha
    · rename_i hk
      subst hk
      obtain rfl := Option.some.inj ha
      rw [if_pos rfl] at hb
      obtain rfl := Option.some.inj hb
      exact h q hq
    · rename_i hk
      rw [if_neg hk] at hb
      obtain rfl : a = b := Option.some.inj (ha.symm.trans hb)
      exact .refl q a

theorem put_children (hms : DistinctKeys ms) {vs ws : List Value}
    (h : List.Forall₂ (Agree .node) vs ws) :
    Agree .node (.object (putMember "children" (.array vs) ms))
      (.object (putMember "children" (.array ws) ms)) := by
  obtain ⟨hlength, hitems⟩ := List.forall₂_iff_get.mp h
  refine put hms fun q hread => ?_
  obtain rfl := hread.eq_children
  refine .array hlength fun i q v w hitem hv hw => ?_
  obtain ⟨hi, rfl⟩ := List.getElem?_eq_some_iff.mp hv
  obtain ⟨hi', rfl⟩ := List.getElem?_eq_some_iff.mp hw
  cases hitem with
  | child => exact hitems i hi hi'

end Agree

end Place

end SceneMarkup
