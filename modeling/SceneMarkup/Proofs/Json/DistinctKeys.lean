import Mathlib.Data.List.Nodup
import SceneMarkup.Json.Reading
import SceneMarkup.Proofs.Outcomes

/-!
# Members with distinct keys

An object that is read from a text has at most one member of a key
(`distinctKeys_of_value`). In such an object a member is found under its key just if it is
there at all (`lookup_eq_some_iff`), wherever it stands (`lookup_eq_of_perm`).
-/

namespace SceneMarkup.Json

variable {α : Type} {ms ns : List (String × α)}

def DistinctKeys (ms : List (String × α)) : Prop := (ms.map Prod.fst).Nodup

instance (ms : List (String × α)) : Decidable (DistinctKeys ms) :=
  inferInstanceAs (Decidable (List.Nodup _))

theorem mem_keys_putMember (key k : String) (value : α) (ms : List (String × α)) :
    k ∈ (putMember key value ms).map Prod.fst ↔ k = key ∨ k ∈ ms.map Prod.fst := by
  induction ms with
  | nil => simp [putMember]
  | cons m rest ih =>
    obtain ⟨l, v⟩ := m
    unfold putMember
    split
    · rename_i hl
      simp [hl]
    · rw [List.map_cons, List.mem_cons, ih, List.map_cons, List.mem_cons, or_left_comm]

theorem keys_putMember (key : String) (value value' : α) (ms : List (String × α)) :
    (putMember key value ms).map Prod.fst = (putMember key value' ms).map Prod.fst := by
  induction ms with
  | nil => rfl
  | cons m rest ih =>
    unfold putMember
    split
    · rfl
    · rw [List.map_cons, List.map_cons, ih]

theorem DistinctKeys.putMember (h : DistinctKeys ms) (key : String) (value : α) :
    DistinctKeys (putMember key value ms) := by
  induction ms with
  | nil => exact List.nodup_singleton _
  | cons m rest ih =>
    obtain ⟨hfirst, hrest⟩ := List.nodup_cons.mp h
    unfold Json.putMember
    split
    · exact h
    · rename_i hne
      refine List.nodup_cons.mpr ⟨?_, ih hrest⟩
      rw [mem_keys_putMember, not_or]
      exact ⟨hne, hfirst⟩

/-! ## Objects of a text -/

theorem DistinctKeys.memberValues {budget : Budget} {members : List (Key × Outline × Position)}
    {done read : List (String × Value)} (hdone : DistinctKeys done)
    (h : Outline.memberValues budget done members = .ok read) : DistinctKeys read := by
  induction members generalizing done with
  | nil =>
    cases h
    exact hdone
  | cons member rest ih =>
    obtain ⟨key, o, p⟩ := member
    unfold Outline.memberValues at h
    obtain ⟨k, -, h⟩ := exists_of_bind_eq_ok h
    obtain ⟨v, -, h⟩ := exists_of_bind_eq_ok h
    exact ih (hdone.putMember k v) h

/-- An object in a text is read as one with distinct keys: of a key that is repeated, the last
member counts. -/
theorem distinctKeys_of_value {budget : Budget} {start : Position}
    {members : List (Key × Outline × Position)} {ending : Ending} {v : Value}
    (h : (Outline.object start members ending).value budget = .ok v) :
    ∃ ms, v = .object ms ∧ DistinctKeys ms := by
  unfold Outline.value at h
  obtain ⟨inner, -, h⟩ := exists_of_bind_eq_ok h
  obtain ⟨ms, hread, h⟩ := exists_of_bind_eq_ok h
  obtain ⟨-, -, h⟩ := exists_of_bind_eq_ok h
  cases h
  have hnil : DistinctKeys ([] : List (String × Value)) := List.nodup_nil
  exact ⟨ms, rfl, hnil.memberValues hread⟩

/-! ## Looking members up -/

theorem lookup_eq_some_iff (h : DistinctKeys ms) (key : String) (value : α) :
    ms.lookup key = some value ↔ (key, value) ∈ ms := by
  induction ms with
  | nil => simp
  | cons m rest ih =>
    obtain ⟨k, v⟩ := m
    obtain ⟨hfirst, hrest⟩ := List.nodup_cons.mp h
    rw [List.lookup_cons, List.mem_cons]
    by_cases hkey : key = k
    · subst hkey
      have hnot : (key, value) ∉ rest := fun hmem => hfirst (List.mem_map.mpr ⟨_, hmem, rfl⟩)
      simp [hnot, eq_comm]
    · have hne : (key == k) = false := by simpa using hkey
      simp [hne, hkey, ih hrest]

theorem lookup_eq_of_perm (h : ms.Perm ns) (hms : DistinctKeys ms) (key : String) :
    ms.lookup key = ns.lookup key := by
  have hns : DistinctKeys ns := (h.map Prod.fst).nodup hms
  apply Option.ext
  intro value
  rw [lookup_eq_some_iff hms, lookup_eq_some_iff hns, h.mem_iff]

/-- Objects with the same keys in order, whose members are mapped alike key by key, are mapped alike
as a whole. -/
theorem map_eq_of_lookup {β : Type} {φ : α → β} (hms : DistinctKeys ms)
    (hkeys : ms.map Prod.fst = ns.map Prod.fst)
    (h : ∀ key v w, ms.lookup key = some v → ns.lookup key = some w → φ v = φ w) :
    ms.map (fun m => (m.1, φ m.2)) = ns.map (fun m => (m.1, φ m.2)) := by
  induction ms generalizing ns with
  | nil =>
    cases ns with
    | nil => rfl
    | cons n ns => simp at hkeys
  | cons m ms ih =>
    cases ns with
    | nil => simp at hkeys
    | cons n ns =>
      obtain ⟨k, v⟩ := m
      obtain ⟨l, w⟩ := n
      obtain ⟨hfirst, hrest⟩ := List.nodup_cons.mp hms
      obtain ⟨rfl, htail⟩ : k = l ∧ ms.map Prod.fst = ns.map Prod.fst := by simpa using hkeys
      have hhead : φ v = φ w := h k v w (by simp) (by simp)
      have hmap := ih hrest htail fun key v' w' hv hw => by
        -- a key that is found further on is not the first one
        have hmem : key ∈ ms.map Prod.fst :=
          List.mem_map.mpr ⟨_, (lookup_eq_some_iff hrest key v').mp hv, rfl⟩
        have hne : (key == k) = false := by
          simpa using fun heq : key = k => hfirst (heq ▸ hmem)
        apply h key v' w' <;> simpa [List.lookup_cons, hne]
      rw [List.map_cons, List.map_cons, hhead, hmap]

end SceneMarkup.Json
