import SceneMarkup.Proofs.Json.Shown
import SceneMarkup.Registry.Document

/-!
# Reading descriptors that were written

An outline that shows a written descriptor is read as that descriptor, but for defaults that are
null, which are read as none (`Descriptor.asRead`), if the numbers in its defaults are read as
themselves, and only then (`Descriptor.read_eq_ok_iff`). The same holds of a document of components
(`readComponents_eq_ok_iff`).
-/

namespace SceneMarkup

open Json (Value Outline Budget Error Key Position RecordField)
open Json.Outline (Shows ShowsItems ShowsMembers)

/-! ## Members of records -/

/-- A member that is a field, and not set before, is read into the draft. -/
theorem readMember_of_named {σ : Type} {fields : List (RecordField σ)} {draft : σ} {key : Key}
    {k : String} {f : RecordField σ} (hkey : key.text = .ok k)
    (hf : RecordField.named? fields k = some f) (hset : f.isSet draft = false) (b : Budget)
    (o : Outline) (p : Position) :
    RecordField.readMember fields b draft (key, o, p) = (f.read b o).map fun set => set draft := by
  simp only [RecordField.readMember, RecordField.ofKey, hkey, hf, hset, bind, Except.bind, pure,
    Except.pure, Bool.false_eq_true, if_false]
  cases f.read b o <;> rfl

theorem record_closed {σ : Type} (name : String) (fields : List (RecordField σ)) (empty : σ)
    {b inner : Budget} {p q : Position} (henter : b.enter p = .ok inner)
    (members : List (Key × Outline × Position)) :
    (Outline.object p members (.closed q)).record name fields empty b =
      members.foldlM (RecordField.readMember fields inner) empty >>= fun draft =>
        match fields.find? fun f => f.required && !f.isSet draft with
        | some f => throw (.unwanted (.missing f.key) q)
        | none => pure draft := by
  rw [Outline.record, henter]
  rfl

namespace PropType

theorem ofToken?_token (t : PropType) : ofToken? t.token = some t := by
  cases t <;> decide

theorem read_token {b : Budget} (p q : Position) (t : PropType) :
    read b (.string p q (.ok t.token)) = .ok t := by
  rw [read]
  simp only [bind, Except.bind, ofName, ofToken?_token]

end PropType

/-! ## Props -/

/-- What a written default comes back as: null is as good as none. -/
def PropSchema.nonNull : Value → Option Value
  | .null => none
  | v => some v

def PropSchema.asRead (p : PropSchema) : PropSchema := { p with default := p.default.bind nonNull }

section

variable {N : Value → Except Error Value → Prop} {Q : Value → Prop} {b inner : Budget} {key : Key}

namespace PropDraft

variable {draft : PropDraft}

theorem readMember_name (hkey : key.text = .ok "name") (hset : draft.name = none)
    (p q position : Position) (s : String) :
    RecordField.readMember fields b draft (key, .string p q (.ok s), position) =
      .ok { draft with name := some s } := by
  rw [readMember_of_named hkey rfl (by simp [hset])]
  rfl

theorem readMember_type (hkey : key.text = .ok "type") (hset : draft.type = none)
    (p q position : Position) (t : PropType) :
    RecordField.readMember fields b draft (key, .string p q (.ok t.token), position) =
      .ok { draft with type := some t } := by
  rw [readMember_of_named hkey rfl (by simp [hset])]
  simp only [PropType.read_token]
  rfl

theorem readMember_default (hkey : key.text = .ok "default") (hset : draft.default = none)
    (o : Outline) (position : Position) :
    RecordField.readMember fields b draft (key, o, position) =
      (PropSchema.readDefault b o).map fun x => { draft with default := some x } := by
  rw [readMember_of_named hkey rfl (by simp [hset])]
  cases hread : PropSchema.readDefault b o <;> simp only [hread] <;> rfl

end PropDraft

namespace PropSchema

theorem read_of_shows (henter : ∀ p, b.enter p = .ok inner) {p : PropSchema} {o : Outline}
    (h : o.Shows N p.toValue) :
    p.default = none ∧ read b o = .ok p ∨
      ∃ v d, p.default = some v ∧ d.Shows N v ∧
        read b o = (readDefault inner d).map fun x => ⟨p.name, p.type, x⟩ := by
  obtain ⟨name, type, default⟩ := p
  cases h with
  | object start stop hmembers =>
    cases hmembers with
    | cons hname _ ho hmembers =>
      cases ho
      cases hmembers with
      | cons htype _ ho hmembers =>
        cases ho
        cases default with
        | none =>
          cases hmembers
          refine .inl ⟨rfl, ?_⟩
          rw [read, record_closed _ _ _ (henter start)]
          simp only [List.foldlM_cons, List.foldlM_nil, PropDraft.readMember_name hname,
            PropDraft.readMember_type htype, bind, Except.bind]
          rfl
        | some v =>
          cases hmembers with
          | cons hdefault _ ho hmembers =>
            cases hmembers
            rename_i d _
            refine .inr ⟨v, d, rfl, ho, ?_⟩
            rw [read, record_closed _ _ _ (henter start)]
            simp only [List.foldlM_cons, List.foldlM_nil, PropDraft.readMember_name hname,
              PropDraft.readMember_type htype, PropDraft.readMember_default hdefault, bind,
              Except.bind]
            cases readDefault inner d <;> rfl

theorem readDefault_eq_ok_iff (hN : ∀ w r, w.IsNumber → N w r → (r = .ok w ↔ Q w)) {v : Value}
    (hv : v.Fits b) {d : Outline} (h : d.Shows N v) :
    readDefault b d = .ok (nonNull v) ↔ v.Numbers Q := by
  have hvalue := Outline.value_eq_ok_iff hN hv h
  have hsome {v : Value} : (d.value b).map some = .ok (some v) ↔ d.value b = .ok v := by
    cases d.value b <;> simp [Except.map]
  cases h with
  | null p q => exact iff_of_true rfl Value.numbers_null
  | _ => exact hsome.trans hvalue

/-- **A written prop is read as itself, but for a default that is null, just if the numbers in its
default are read as themselves.** -/
theorem read_eq_ok_iff (hN : ∀ w r, w.IsNumber → N w r → (r = .ok w ↔ Q w))
    (henter : ∀ p, b.enter p = .ok inner) {p : PropSchema} (hp : ∀ v ∈ p.default, v.Fits inner)
    {o : Outline} (h : o.Shows N p.toValue) :
    read b o = .ok p.asRead ↔ ∀ v ∈ p.default, v.Numbers Q := by
  rcases read_of_shows henter h with ⟨hnone, hread⟩ | ⟨v, d, hsome, hd, hread⟩
  · have hasRead : p.asRead = p := by
      obtain ⟨name, type, default⟩ := p
      obtain rfl : default = none := hnone
      rfl
    rw [hread, hasRead, hnone]
    exact iff_of_true rfl nofun
  · have hdefault := readDefault_eq_ok_iff hN (hp v hsome) hd
    rw [hread, hsome]
    simp only [Option.mem_def, Option.some.injEq, forall_eq', ← hdefault]
    rw [asRead, hsome, Option.bind_some]
    cases readDefault inner d <;> simp [Except.map]

end PropSchema

/-! ## Descriptors -/

theorem items_closed {α : Type} {p : Position} (henter : b.enter p = .ok inner)
    (read : Budget → Outline → Except Error α) (os : List Outline) (q : Position) :
    (Outline.array p os (.closed q)).items b read = os.mapM (read inner) := by
  rw [Outline.items, henter]
  simp only [bind, Except.bind]
  cases os.mapM (read inner) <;> rfl

def Descriptor.asRead (d : Descriptor) : Descriptor := { d with props := d.props.map (·.asRead) }

namespace DescriptorDraft

variable {draft : DescriptorDraft}

theorem readMember_name (hkey : key.text = .ok "name") (hset : draft.name = none)
    (p q position : Position) (s : String) :
    RecordField.readMember fields b draft (key, .string p q (.ok s), position) =
      .ok { draft with name := some s } := by
  rw [readMember_of_named hkey rfl (by simp [hset])]
  rfl

theorem readMember_props (hkey : key.text = .ok "props") (hset : draft.props = none)
    (henter : ∀ p, b.enter p = .ok inner) (p q position : Position) (os : List Outline) :
    RecordField.readMember fields b draft (key, .array p os (.closed q), position) =
      (os.mapM (PropSchema.read inner)).map fun x => { draft with props := some x } := by
  rw [readMember_of_named hkey rfl (by simp [hset])]
  simp only [items_closed (henter p)]
  cases os.mapM (PropSchema.read inner) <;> rfl

end DescriptorDraft

namespace Descriptor

variable {b₁ b₂ b₃ : Budget} {d : Descriptor} {o : Outline}

theorem exists_read_of_shows (h₁ : ∀ p, b.enter p = .ok b₁) (h₂ : ∀ p, b₁.enter p = .ok b₂)
    (h : o.Shows N d.toValue) :
    ∃ os, ShowsItems N os (d.props.map PropSchema.toValue) ∧
      read b o = (os.mapM (PropSchema.read b₂)).map fun ps => ⟨d.name, ps⟩ := by
  cases h with
  | object start stop hmembers =>
    cases hmembers with
    | cons hname _ ho hmembers =>
      cases ho
      cases hmembers with
      | cons hprops _ ho hmembers =>
        cases hmembers
        cases ho with
        | @array _ _ os _ hos =>
          refine ⟨os, hos, ?_⟩
          rw [read, record_closed _ _ _ (h₁ start)]
          simp only [List.foldlM_cons, List.foldlM_nil, DescriptorDraft.readMember_name hname,
            DescriptorDraft.readMember_props hprops _ h₂, bind, Except.bind]
          cases os.mapM (PropSchema.read b₂) <;> rfl

theorem name_of_read (h₁ : ∀ p, b.enter p = .ok b₁) (h₂ : ∀ p, b₁.enter p = .ok b₂)
    (h : o.Shows N d.toValue) {d' : Descriptor} (hread : read b o = .ok d') : d'.name = d.name := by
  obtain ⟨os, -, heq⟩ := exists_read_of_shows h₁ h₂ h
  rw [heq] at hread
  cases hps : os.mapM (PropSchema.read b₂) with
  | error e => rw [hps] at hread; cases hread
  | ok ps => rw [hps] at hread; cases hread; rfl

def DefaultsFit (b : Budget) (d : Descriptor) : Prop :=
  ∀ p ∈ d.props, ∀ v ∈ p.default, v.Fits b

def DefaultNumbers (Q : Value → Prop) (d : Descriptor) : Prop :=
  ∀ p ∈ d.props, ∀ v ∈ p.default, v.Numbers Q

/-- **A written descriptor is read as itself, but for defaults that are null, just if the numbers in
its defaults are read as themselves.** -/
theorem read_eq_ok_iff (hN : ∀ w r, w.IsNumber → N w r → (r = .ok w ↔ Q w))
    (h₁ : ∀ p, b.enter p = .ok b₁) (h₂ : ∀ p, b₁.enter p = .ok b₂) (h₃ : ∀ p, b₂.enter p = .ok b₃)
    (hd : d.DefaultsFit b₃) (h : o.Shows N d.toValue) :
    read b o = .ok d.asRead ↔ d.DefaultNumbers Q := by
  obtain ⟨os, hos, hread⟩ := exists_read_of_shows h₁ h₂ h
  have hprops := hos.mapM_eq_ok_iff fun p hp o ho => PropSchema.read_eq_ok_iff hN h₃ (hd p hp) ho
  rw [hread, DefaultNumbers, ← hprops, asRead]
  cases os.mapM (PropSchema.read b₂) <;> simp [Except.map]

end Descriptor

/-! ## Documents -/

def documentValue (ds : List Descriptor) : Value :=
  .object [("components", .array (ds.map Descriptor.toValue))]

theorem exists_readComponents_of_shows {ds : List Descriptor} {o : Outline}
    (h : o.Shows N (documentValue ds)) :
    ∃ os, ShowsItems N os (ds.map Descriptor.toValue) ∧
      readComponents o = os.mapM (Descriptor.read (some 125)) := by
  cases h with
  | object start stop hmembers =>
    cases hmembers with
    | cons hkey position ho hmembers =>
      cases hmembers
      cases ho with
      | @array p q os _ hos =>
        have henter (p : Position) : registryBudget.enter p = .ok (some 126) := rfl
        have hinner (p : Position) : Budget.enter (some 126) p = .ok (some 125) := rfl
        refine ⟨os, hos, ?_⟩
        rw [readComponents, record_closed _ _ _ (henter start)]
        simp only [List.foldlM_cons, List.foldlM_nil]
        rw [readMember_of_named hkey rfl rfl]
        simp only [items_closed (hinner p), bind, Except.bind]
        cases os.mapM (Descriptor.read (some 125)) <;> rfl

def defaultBudget : Budget := some 122

/-- **A written document is read as its components, but for defaults that are null, just if the
numbers in their defaults are read as themselves.** -/
theorem readComponents_eq_ok_iff (hN : ∀ w r, w.IsNumber → N w r → (r = .ok w ↔ Q w))
    {ds : List Descriptor} (hds : ∀ d ∈ ds, d.DefaultsFit defaultBudget) {o : Outline}
    (h : o.Shows N (documentValue ds)) :
    readComponents o = .ok (ds.map (·.asRead)) ↔ ∀ d ∈ ds, d.DefaultNumbers Q := by
  obtain ⟨os, hos, hread⟩ := exists_readComponents_of_shows h
  rw [hread]
  exact hos.mapM_eq_ok_iff fun d hd o ho =>
    Descriptor.read_eq_ok_iff hN (fun _ => rfl) (fun _ => rfl) (fun _ => rfl) (hds d hd) ho

theorem names_of_readComponents {ds ds' : List Descriptor} {o : Outline}
    (h : o.Shows N (documentValue ds)) (hread : readComponents o = .ok ds') :
    ds'.map (·.name) = ds.map (·.name) := by
  obtain ⟨os, hos, heq⟩ := exists_readComponents_of_shows h
  rw [heq] at hread
  clear h heq
  induction ds generalizing os ds' with
  | nil => cases hos; cases hread; rfl
  | cons d ds ih =>
    cases hos with
    | cons ho hos =>
      rw [List.mapM_cons] at hread
      obtain ⟨d', hd', hread⟩ := exists_of_bind_eq_ok hread
      obtain ⟨rest, hrest, hread⟩ := exists_of_bind_eq_ok hread
      cases hread
      rw [List.map_cons, List.map_cons, ih _ hrest hos,
        Descriptor.name_of_read (fun _ => rfl) (fun _ => rfl) ho hd']

end

end SceneMarkup
