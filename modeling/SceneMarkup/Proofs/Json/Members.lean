import SceneMarkup.Json.Shape

/-!
# Members that are not read

A record does not see the members of an object that are none of its fields: giving such a member
another value changes neither its first mismatch (`mismatch?_putMember`) nor any of its fields.
-/

namespace SceneMarkup.Json

variable {key : String}

theorem findSome?_putMember {α β : Type} {f : String × α → Option β} (hf : ∀ a, f (key, a) = none)
    (value : α) (members : List (String × α)) :
    (putMember key value members).findSome? f = members.findSome? f := by
  induction members with
  | nil => rw [putMember, List.findSome?_cons, hf]
  | cons m rest ih =>
    obtain ⟨k, v⟩ := m
    unfold putMember
    split
    · rename_i hk
      subst hk
      simp only [List.findSome?_cons, hf]
    · simp only [List.findSome?_cons, ih]

namespace Shape

theorem memberMismatch?_of_not_mem {fields : List (String × Presence × Shape)}
    (h : key ∉ fields.map (·.1)) (v : Value) : memberMismatch? fields key v = none := by
  induction fields with
  | nil => rfl
  | cons field rest ih =>
    obtain ⟨k, presence, shape⟩ := field
    obtain ⟨hk, hrest⟩ := List.ne_and_not_mem_of_not_mem_cons h
    unfold memberMismatch?
    rw [if_neg hk]
    exact ih hrest

theorem missing?_putMember {fields : List (String × Presence × Shape)}
    (h : key ∉ fields.map (·.1)) (value : Value) (members : List (String × Value)) :
    missing? (putMember key value members) fields = missing? members fields := by
  induction fields with
  | nil => rfl
  | cons field rest ih =>
    obtain ⟨k, presence, shape⟩ := field
    obtain ⟨hk, hrest⟩ := List.ne_and_not_mem_of_not_mem_cons h
    have hlookup : (putMember key value members).lookup k = members.lookup k := by
      rw [lookup_putMember, if_neg (Ne.symm hk)]
    simp only [missing?, hlookup, ih hrest]

theorem mismatch?_putMember {fields : List (String × Presence × Shape)}
    (h : key ∉ fields.map (·.1)) (name : String) (value : Value) (members : List (String × Value)) :
    (record name fields).mismatch? (.object (putMember key value members)) =
      (record name fields).mismatch? (.object members) := by
  have hmember (v : Value) : memberMismatch? fields (key, v).1 (key, v).2 = none :=
    memberMismatch?_of_not_mem h v
  simp only [mismatch?]
  rw [findSome?_putMember hmember, missing?_putMember h]

theorem field?_putMember {k : String} (h : k ≠ key) (shape : Shape) (value : Value)
    (members : List (String × Value)) :
    shape.field? k (.object (putMember key value members)) = shape.field? k (.object members) := by
  simp only [field?, lookup_putMember, if_neg h]

end Shape

theorem Value.member?_putMember {k : String} (h : k ≠ key) (value : Value)
    (members : List (String × Value)) :
    Value.member? k (.object (putMember key value members)) =
      Value.member? k (.object members) := by
  simp only [member?, lookup_putMember, if_neg h]

end SceneMarkup.Json
