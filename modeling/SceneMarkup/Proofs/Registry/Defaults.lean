import SceneMarkup.Proofs.Json.TextValues
import SceneMarkup.Proofs.Registry.Descriptors
import SceneMarkup.Proofs.Registry.Loading

/-!
# The defaults in a loaded registry

What holds of a draft before any field is read, and is kept by each field that is read, holds of a
record (`record_invariant`), in whichever form it is written. So the defaults of components that are
loaded from a text are not null, and fit into the budget for defaults (`defaultsRead_of_ofText`).
-/

namespace SceneMarkup

open Json (Value Outline Budget Ending Error Key Position RecordField)

/-! ## Records -/

section

variable {σ : Type} {fields : List (RecordField σ)} {b inner : Budget} {I : σ → Prop}

/-- What reading any field from a text keeps. -/
def Keeps (I : σ → Prop) (fields : List (RecordField σ)) (b : Budget) : Prop :=
  ∀ f ∈ fields, ∀ (o : Outline) (set : σ → σ) (draft : σ), o.FromText → f.read b o = .ok set →
    I draft → I (set draft)

theorem readMember_invariant (hkeeps : Keeps I fields b) {draft draft' : σ}
    {m : Key × Outline × Position} (hm : m.2.1.FromText)
    (h : RecordField.readMember fields b draft m = .ok draft') (hdraft : I draft) : I draft' := by
  unfold RecordField.readMember RecordField.ofKey at h
  obtain ⟨f?, hf, h⟩ := exists_of_bind_eq_ok h
  cases f? with
  | none =>
    obtain ⟨-, -, h⟩ := exists_of_bind_eq_ok h
    cases h
    exact hdraft
  | some f =>
    obtain ⟨set, hset, h⟩ := exists_of_bind_eq_ok h
    cases h
    obtain ⟨k, -, hf⟩ := exists_of_bind_eq_ok hf
    split at hf
    · cases hf
    · rename_i f' hnamed
      split at hf
      · cases hf
      · cases hf
        exact hkeeps f (List.mem_of_find?_eq_some hnamed) m.2.1 set draft hm hset hdraft

theorem foldlM_readMember_invariant (hkeeps : Keeps I fields b)
    {members : List (Key × Outline × Position)} (hmembers : ∀ m ∈ members, m.2.1.FromText)
    {draft draft' : σ} (h : members.foldlM (RecordField.readMember fields b) draft = .ok draft')
    (hdraft : I draft) : I draft' := by
  induction members generalizing draft with
  | nil => cases h; exact hdraft
  | cons m members ih =>
    obtain ⟨hm, hrest⟩ := List.forall_mem_cons.mp hmembers
    rw [List.foldlM_cons] at h
    obtain ⟨next, hnext, h⟩ := exists_of_bind_eq_ok h
    exact ih hrest h (readMember_invariant hkeeps hm hnext hdraft)

theorem readItems_invariant (hkeeps : Keeps I fields b) {record : String} {size count : Nat}
    {ending : Ending} {os : List Outline} (hos : ∀ o ∈ os, o.FromText) {draft draft' : σ}
    (h : RecordField.readItems record size b ending count fields os draft = .ok draft')
    (hdraft : I draft) : I draft' := by
  induction fields generalizing count os draft with
  | nil =>
    cases os with
    | nil =>
      obtain ⟨-, -, h⟩ := exists_of_bind_eq_ok h
      cases h
      exact hdraft
    | cons o os => cases h
  | cons f fields ih =>
    obtain ⟨hf, hfields⟩ := List.forall_mem_cons.mp hkeeps
    cases os with
    | nil =>
      obtain ⟨-, -, h⟩ := exists_of_bind_eq_ok h
      split at h
      · cases h
      · exact ih hfields hos h hdraft
    | cons o os =>
      obtain ⟨ho, hrest⟩ := List.forall_mem_cons.mp hos
      obtain ⟨set, hset, h⟩ := exists_of_bind_eq_ok h
      exact ih hfields hrest h (hf o set draft ho hset hdraft)

/-- **What each field keeps holds of a record that is read from a text.** -/
theorem record_invariant (henter : ∀ p, b.enter p = .ok inner) (hkeeps : Keeps I fields inner)
    {name : String} {empty draft : σ} (hempty : I empty) {o : Outline} (ho : o.FromText)
    (h : o.record name fields empty b = .ok draft) : I draft := by
  cases ho with
  | array p ending hitems =>
    rw [Outline.record, henter p] at h
    exact readItems_invariant hkeeps hitems h hempty
  | object p ending hmembers =>
    rw [Outline.record, henter p] at h
    obtain ⟨_, ⟨⟩, h⟩ := exists_of_bind_eq_ok h
    obtain ⟨last, hlast, h⟩ := exists_of_bind_eq_ok h
    obtain ⟨-, -, h⟩ := exists_of_bind_eq_ok h
    split at h
    · cases h
    · cases h
      exact foldlM_readMember_invariant hkeeps hmembers hlast hempty
  | null | bool | number | string | broken => cases h

end

/-! ## Components -/

section

variable {b inner : Budget} {o : Outline}

def PropSchema.DefaultRead (b : Budget) (p : PropSchema) : Prop :=
  ∀ v ∈ p.default, v.Fits b ∧ v ≠ .null

def PropDraft.DefaultRead (b : Budget) (d : PropDraft) : Prop :=
  ∀ v, d.default = some (some v) → v.Fits b ∧ v ≠ .null

theorem PropSchema.defaultRead_of_readDefault (ho : o.FromText) {x : Option Value}
    (h : readDefault b o = .ok x) : ∀ v ∈ x, v.Fits b ∧ v ≠ .null := by
  intro v hv
  have hread : o.value b = .ok v ∧ ∀ p q, o ≠ .null p q := by
    unfold readDefault at h
    split at h
    · cases h
      cases hv
    · rename_i hnonnull
      obtain ⟨w, hw, rfl⟩ := exists_of_map_eq_ok h
      cases hv
      exact ⟨hw, fun p q heq => hnonnull p q heq⟩
  refine ⟨Outline.fits_of_value ho hread.1, ?_⟩
  rintro rfl
  obtain ⟨p, q, heq⟩ := Outline.eq_null_of_value ho hread.1
  exact hread.2 p q heq

theorem PropSchema.defaultRead_of_read (henter : ∀ p, b.enter p = .ok inner) (ho : o.FromText)
    {p : PropSchema} (h : read b o = .ok p) : p.DefaultRead inner := by
  obtain ⟨draft, hdraft, rfl⟩ := exists_of_map_eq_ok h
  have hkeeps : Keeps (PropDraft.DefaultRead inner) PropDraft.fields inner := by
    intro f hf o set draft ho hset hdraft
    simp only [PropDraft.fields, List.mem_cons, List.not_mem_nil, or_false] at hf
    rcases hf with rfl | rfl | rfl
    · obtain ⟨x, -, rfl⟩ := exists_of_map_eq_ok hset
      exact hdraft
    · obtain ⟨x, -, rfl⟩ := exists_of_map_eq_ok hset
      exact hdraft
    · obtain ⟨x, hx, rfl⟩ := exists_of_map_eq_ok hset
      intro v hv
      exact defaultRead_of_readDefault ho hx v (Option.some.inj hv)
  have hread : draft.DefaultRead inner :=
    record_invariant henter hkeeps (by rintro v ⟨⟩) ho hdraft
  exact fun v hv => hread v (Option.join_eq_some_iff.mp hv)

def Descriptor.DefaultsRead (b : Budget) (d : Descriptor) : Prop :=
  ∀ p ∈ d.props, p.DefaultRead b

theorem exists_of_mem_items {α : Type} {read : Budget → Outline → Except Error α}
    (henter : ∀ p, b.enter p = .ok inner) (ho : o.FromText) {xs : List α}
    (h : o.items b read = .ok xs) {x : α} (hx : x ∈ xs) :
    ∃ item : Outline, item.FromText ∧ read inner item = .ok x := by
  cases ho with
  | null | bool | number | string | object | broken => cases h
  | array p ending hos =>
    rw [Outline.items, henter p] at h
    obtain ⟨_, ⟨⟩, h⟩ := exists_of_bind_eq_ok h
    obtain ⟨ys, hys, h⟩ := exists_of_bind_eq_ok h
    obtain ⟨-, -, h⟩ := exists_of_bind_eq_ok h
    cases h
    obtain ⟨item, hitem, hread⟩ := exists_of_mem_mapM hys hx
    exact ⟨item, hos item hitem, hread⟩

theorem Descriptor.defaultsRead_of_read {b₁ b₂ b₃ : Budget} (h₁ : ∀ p, b.enter p = .ok b₁)
    (h₂ : ∀ p, b₁.enter p = .ok b₂) (h₃ : ∀ p, b₂.enter p = .ok b₃) (ho : o.FromText)
    {d : Descriptor} (h : read b o = .ok d) : d.DefaultsRead b₃ := by
  obtain ⟨draft, hdraft, rfl⟩ := exists_of_map_eq_ok h
  have hkeeps : Keeps (fun d : DescriptorDraft => ∀ ps, d.props = some ps → ∀ p ∈ ps, p.DefaultRead b₃)
      DescriptorDraft.fields b₁ := by
    intro f hf o set draft ho hset hdraft
    simp only [DescriptorDraft.fields, List.mem_cons, List.not_mem_nil, or_false] at hf
    rcases hf with rfl | rfl
    · obtain ⟨x, -, rfl⟩ := exists_of_map_eq_ok hset
      exact hdraft
    · obtain ⟨ps, hps, rfl⟩ := exists_of_map_eq_ok hset
      rintro _ ⟨⟩ p hp
      obtain ⟨item, hitem, hread⟩ := exists_of_mem_items h₂ ho hps hp
      exact PropSchema.defaultRead_of_read h₃ hitem hread
  have hread := record_invariant h₁ hkeeps (by rintro ps ⟨⟩) ho hdraft
  intro p hp
  cases hprops : draft.props with
  | none => rw [hprops] at hp; cases hp
  | some ps => rw [hprops] at hp; exact hread ps hprops p hp

theorem defaultsRead_of_readComponents (ho : o.FromText) {ds : List Descriptor}
    (h : readComponents o = .ok ds) : ∀ d ∈ ds, d.DefaultsRead defaultBudget := by
  obtain ⟨draft, hdraft, rfl⟩ := exists_of_map_eq_ok h
  have henter (p : Position) : registryBudget.enter p = .ok (some 126) := rfl
  have hkeeps : Keeps (fun draft : Option (List Descriptor) => ∀ ds, draft = some ds →
      ∀ d ∈ ds, d.DefaultsRead defaultBudget) registryFields (some 126) := by
    intro f hf o set draft ho hset hdraft
    simp only [registryFields, List.mem_cons, List.not_mem_nil, or_false] at hf
    subst hf
    obtain ⟨ds, hds, rfl⟩ := exists_of_map_eq_ok hset
    rintro _ ⟨⟩ d hd
    obtain ⟨item, hitem, hread⟩ := exists_of_mem_items (fun _ => rfl) ho hds hd
    exact Descriptor.defaultsRead_of_read (fun _ => rfl) (fun _ => rfl) (fun _ => rfl) hitem hread
  have hread := record_invariant henter hkeeps (by rintro ds ⟨⟩) ho hdraft
  intro d hd
  cases draft with
  | none => cases hd
  | some ds => exact hread ds rfl d hd

theorem Descriptor.DefaultsRead.fit {d : Descriptor} (h : d.DefaultsRead b) : d.DefaultsFit b :=
  fun p hp v hv => (h p hp v hv).1

theorem Descriptor.DefaultsRead.asRead {d : Descriptor} (h : d.DefaultsRead b) : d.asRead = d := by
  have hprop (p : PropSchema) (hp : p ∈ d.props) : p.asRead = p := by
    obtain ⟨name, type, default⟩ := p
    cases default with
    | none => rfl
    | some v =>
      have hnonnull := (h _ hp v rfl).2
      cases v with
      | null => exact absurd rfl hnonnull
      | bool | integer | float | string | array | object => rfl
  rw [Descriptor.asRead, List.map_congr_left hprop, List.map_id']

end

namespace Registry

variable {text : String} {r : Registry}

theorem read_components_of_ofText (h : ofText text = .ok r) :
    readComponents (Json.Document.ofText text).root = .ok r.components ∧
      ofDescriptors r.components = .ok r := by
  unfold ofText Json.Document.read at h
  split at h
  · rename_i ds hds
    obtain ⟨ds', hread, hds⟩ := exists_of_bind_eq_ok hds
    split at hds
    · cases hds
      rw [components_of_ofDescriptors h]
      exact ⟨hread, h⟩
    · cases hds
  · cases h

/-- **The defaults in a loaded registry are not null**, and fit. -/
theorem defaultsRead_of_ofText (h : ofText text = .ok r) :
    ∀ d ∈ r.components, d.DefaultsRead defaultBudget :=
  defaultsRead_of_readComponents (Json.Document.fromText_ofText text) (read_components_of_ofText h).1

end Registry

end SceneMarkup
