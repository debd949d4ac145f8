import SceneMarkup.Proofs.Registry.Registration

/-!
# Names of components

A component can be registered under a name (`IsName`) that has a character, and only ASCII letters
and digits. These are the names that normalising an instance's name leads to, the empty one apart
(`isName_iff_exists`), as it leads nowhere else a second time (`normalizeName_normalizeName`).
-/

namespace SceneMarkup

variable {name : String}

/-- A name with at least one character, all of them ASCII letters and digits. -/
def IsName (name : String) : Prop := name ≠ "" ∧ ∀ c ∈ name.toList, c.isAlphanum = true

theorem normalizeName_eq_self_iff :
    normalizeName name = name ↔ ∀ c ∈ name.toList, c.isAlphanum = true := by
  rw [normalizeName, ← String.toList_inj, String.toList_ofList, List.filter_eq_self]

@[simp]
theorem normalizeName_normalizeName (name : String) :
    normalizeName (normalizeName name) = normalizeName name := by
  simp only [normalizeName, String.toList_ofList, List.filter_filter, Bool.and_self]

theorem isComponentName_iff : isComponentName name = true ↔ IsName name := by
  rw [isComponentName, Bool.and_eq_true, decide_eq_true_iff, decide_eq_true_iff,
    normalizeName_eq_self_iff, IsName]

instance (name : String) : Decidable (IsName name) := decidable_of_iff _ isComponentName_iff

theorem isName_iff_exists : IsName name ↔ name ≠ "" ∧ ∃ s, normalizeName s = name := by
  rw [IsName, ← normalizeName_eq_self_iff]
  refine and_congr_right' ⟨fun h => ⟨name, h⟩, ?_⟩
  rintro ⟨s, rfl⟩
  exact normalizeName_normalizeName s

namespace Registry

theorem tryRegister_eq_ok_iff {r r' : Registry} {d : Descriptor} :
    r.tryRegister d = .ok r' ↔ IsName d.name ∧ r' = r.register d := by
  rw [tryRegister, ← isComponentName_iff]
  split
  · rename_i h
    simp [h, eq_comm]
  · rename_i h
    simp [h]

theorem tryRegister_eq_error_iff {r : Registry} {d : Descriptor} {fault : RegistryError} :
    r.tryRegister d = .error fault ↔ ¬ IsName d.name ∧ fault = .invalidName d.name := by
  rw [tryRegister, ← isComponentName_iff]
  split
  · rename_i h
    simp [h]
  · rename_i h
    simp [h, eq_comm]

end Registry

end SceneMarkup
