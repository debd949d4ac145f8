import SceneMarkup.Proofs.Outcomes
import SceneMarkup.Registry.Document

/-!
# Checked registries

A registry is checked (`Registry.Checked`) if it was filled by reading a document and by
`Registry.tryRegister` alone. All of its names are names that an instance can have: the names are
kept by every registration (`NamesValid.tryRegister`, `NamesValid.add`), hence by a whole document.
-/

namespace SceneMarkup

theorem mem_putDescriptor {d x : Descriptor} {ds : List Descriptor} (h : x ∈ putDescriptor d ds) :
    x = d ∨ x ∈ ds := by
  induction ds with
  | nil => exact .inl (List.mem_singleton.mp h)
  | cons y rest ih =>
    unfold putDescriptor at h
    split at h
    · rcases List.mem_cons.mp h with hx | hx
      · exact .inl hx
      · exact .inr (.tail _ hx)
    · rcases List.mem_cons.mp h with hx | hx
      · exact .inr (hx ▸ .head _)
      · rcases ih hx with hd | hrest
        · exact .inl hd
        · exact .inr (.tail _ hrest)

namespace Registry

def NamesValid (r : Registry) : Prop := ∀ d ∈ r.components, isComponentName d.name = true

theorem namesValid_empty : empty.NamesValid := List.forall_mem_nil _

theorem NamesValid.tryRegister {r r' : Registry} (hr : r.NamesValid) {d : Descriptor}
    (h : r.tryRegister d = .ok r') : r'.NamesValid := by
  unfold Registry.tryRegister at h
  split at h
  · rename_i hname
    cases h
    intro x hx
    rcases mem_putDescriptor hx with rfl | hmem
    · exact hname
    · exact hr x hmem
  · cases h

theorem NamesValid.add {r r' : Registry} (hr : r.NamesValid) {d : Descriptor}
    (h : r.add d = .ok r') : r'.NamesValid := by
  unfold Registry.add at h
  split at h
  · cases h
  · exact hr.tryRegister h

theorem NamesValid.addAll {r r' : Registry} (hr : r.NamesValid) {ds : List Descriptor}
    (h : ds.foldlM Registry.add r = .ok r') : r'.NamesValid := by
  induction ds generalizing r with
  | nil => cases h; exact hr
  | cons d rest ih =>
    rw [List.foldlM_cons] at h
    obtain ⟨next, hadd, hrest⟩ := exists_of_bind_eq_ok h
    exact ih (hr.add hadd) hrest

theorem namesValid_of_ofDescriptors {ds : List Descriptor} {r : Registry}
    (h : ofDescriptors ds = .ok r) : r.NamesValid := namesValid_empty.addAll h

theorem namesValid_of_ofText {text : String} {r : Registry} (h : ofText text = .ok r) :
    r.NamesValid := by
  unfold ofText at h
  split at h
  · exact namesValid_of_ofDescriptors h
  · cases h

/-- The registries that are filled from documents and by checked registrations alone. -/
inductive Checked : Registry → Prop where
  | empty : Checked .empty
  | document {text : String} {r : Registry} (h : ofText text = .ok r) : Checked r
  | registered {r r' : Registry} {d : Descriptor} (hr : Checked r) (h : r.tryRegister d = .ok r') :
    Checked r'

theorem Checked.namesValid {r : Registry} (h : r.Checked) : r.NamesValid := by
  induction h with
  | empty => exact namesValid_empty
  | document h => exact namesValid_of_ofText h
  | registered _ h ih => exact ih.tryRegister h

theorem Checked.isComponentName {r : Registry} (h : r.Checked) {name : String}
    (hname : r.contains name = true) : SceneMarkup.isComponentName name = true := by
  obtain ⟨d, hd⟩ := Option.isSome_iff_exists.mp hname
  have heq : d.name = name := by simpa using List.find?_some hd
  rw [← heq]
  exact h.namesValid d (List.mem_of_find?_eq_some hd)

end Registry

theorem isAlphanum_of_mem_normalizeName {name : String} {c : Char}
    (h : c ∈ (normalizeName name).toList) : c.isAlphanum = true := by
  rw [normalizeName, String.toList_ofList] at h
  exact (List.mem_filter.mp h).2

end SceneMarkup
