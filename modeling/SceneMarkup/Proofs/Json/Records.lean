import Mathlib.Data.List.Forall2
import SceneMarkup.Proofs.Json.Members

/-!
# Which values are of a shape

What a value has to be so that nothing in it is a mismatch: texts and numbers are themselves, and an
object is a record if each of its members that is a field is null, where the field is optional, or of
the shape of the field (`mismatch?_object_eq_none_iff`). Members that are no fields do not matter,
and neither does the order of members. An array is a record if its items are the fields in order,
and all that are left out have a default (`mismatch?_array_eq_none_iff`).
-/

namespace SceneMarkup.Json

namespace Value

def IsText (v : Value) : Prop := ∃ s, v = .string s

def IsNumber (v : Value) : Prop := (∃ n, v = .integer n) ∨ ∃ x, v = .float x

def IsFlag (v : Value) : Prop := ∃ b, v = .bool b

def IsArray (v : Value) : Prop := ∃ items, v = .array items

def OrNull (P : Value → Prop) (v : Value) : Prop := v = .null ∨ P v

end Value

/-- A member of an object is absent, null, or as wanted. An object that is read from a text has at
most one member of a key; here, all of them have to be so. -/
def OptionalMember (P : Value → Prop) (members : List (String × Value)) (key : String) : Prop :=
  ∀ v, (key, v) ∈ members → v.OrNull P

theorem mem_putMember_of_ne {α : Type} {k key : String} (h : k ≠ key) (v value : α)
    (members : List (String × α)) : (k, v) ∈ putMember key value members ↔ (k, v) ∈ members := by
  induction members with
  | nil => simp [putMember, h]
  | cons m rest ih =>
    obtain ⟨l, x⟩ := m
    unfold putMember
    by_cases hl : l = key
    · subst hl
      simp [h]
    · simp [hl, ih]

theorem optionalMember_putMember {P : Value → Prop} {k key : String} (h : k ≠ key) (value : Value)
    (members : List (String × Value)) :
    OptionalMember P (putMember key value members) k ↔ OptionalMember P members k := by
  unfold OptionalMember
  simp only [mem_putMember_of_ne h]

namespace Shape

theorem mismatch?_text_eq_none_iff (v : Value) : text.mismatch? v = none ↔ v.IsText := by
  cases v <;> simp [mismatch?, Value.IsText]

theorem mismatch?_number_eq_none_iff (v : Value) : number.mismatch? v = none ↔ v.IsNumber := by
  cases v <;> simp [mismatch?, Value.IsNumber]

theorem mismatch?_flag_eq_none_iff (v : Value) : flag.mismatch? v = none ↔ v.IsFlag := by
  cases v <;> simp [mismatch?, Value.IsFlag]

theorem mismatch?_anything (v : Value) : anything.mismatch? v = none := by
  rw [mismatch?]

/-- The value of a field: null is as good as absent if the field is optional. -/
def FieldReads (field : String × Presence × Shape) (v : Value) : Prop :=
  field.2.1 = .optional ∧ v = .null ∨ field.2.2.mismatch? v = none

theorem fieldReads_iff (key : String) (presence : Presence) (shape : Shape) (v : Value) :
    FieldReads (key, presence, shape) v ↔
      (match presence, v with
        | .optional, .null => none
        | _, v => shape.mismatch? v) = none := by
  unfold FieldReads
  cases presence <;> cases v <;> simp

theorem fieldReads_optional {key : String} {shape : Shape} {P : Value → Prop}
    (h : ∀ v, shape.mismatch? v = none ↔ P v) (v : Value) :
    FieldReads (key, .optional, shape) v ↔ v.OrNull P := by
  simp [FieldReads, Value.OrNull, h]

@[simp]
theorem fieldReads_text (key : String) (v : Value) :
    FieldReads (key, .optional, .text) v ↔ v.OrNull Value.IsText :=
  fieldReads_optional mismatch?_text_eq_none_iff v

@[simp]
theorem fieldReads_number (key : String) (v : Value) :
    FieldReads (key, .optional, .number) v ↔ v.OrNull Value.IsNumber :=
  fieldReads_optional mismatch?_number_eq_none_iff v

@[simp]
theorem fieldReads_flag (key : String) (v : Value) :
    FieldReads (key, .optional, .flag) v ↔ v.OrNull Value.IsFlag :=
  fieldReads_optional mismatch?_flag_eq_none_iff v

@[simp]
theorem fieldReads_required_number (key : String) (v : Value) :
    FieldReads (key, .required, .number) v ↔ v.IsNumber := by
  simp [FieldReads, mismatch?_number_eq_none_iff]

@[simp]
theorem fieldReads_anything (key : String) (presence : Presence) (v : Value) :
    FieldReads (key, presence, .anything) v :=
  .inr (mismatch?_anything v)

theorem memberMismatch?_eq_none_iff {fields : List (String × Presence × Shape)}
    (hkeys : (fields.map (·.1)).Nodup) (k : String) (v : Value) :
    memberMismatch? fields k v = none ↔ ∀ field ∈ fields, field.1 = k → FieldReads field v := by
  induction fields with
  | nil => simp [memberMismatch?]
  | cons field rest ih =>
    obtain ⟨key, presence, shape⟩ := field
    obtain ⟨hkey, hrest⟩ := List.nodup_cons.mp hkeys
    unfold memberMismatch?
    rw [List.forall_mem_cons, ← ih hrest]
    by_cases hk : k = key
    · -- the first field of the key decides, and there is no other one
      subst hk
      simp only [if_true, forall_const]
      refine (fieldReads_iff k presence shape v).symm.trans ?_
      simp [memberMismatch?_of_not_mem hkey]
    · simp [hk, Ne.symm hk]

theorem missing?_eq_none_iff {fields : List (String × Presence × Shape)}
    (members : List (String × Value)) :
    missing? members fields = none ↔
      ∀ field ∈ fields, field.2.1 = .required → (members.lookup field.1).isSome := by
  induction fields with
  | nil => simp [missing?]
  | cons field rest ih =>
    obtain ⟨k, presence, shape⟩ := field
    unfold missing?
    rw [List.forall_mem_cons, ← ih]
    split
    · rename_i hmissing
      refine iff_of_false (Option.some_ne_none _) fun hthere => ?_
      simpa [Option.isNone_iff_eq_none.mp hmissing.2] using hthere.1 hmissing.1
    · rename_i hthere
      simp only [not_and, Bool.not_eq_true, Option.isNone_eq_false_iff] at hthere
      exact (and_iff_right hthere).symm

/-- An object is a record just if each of its members that is a field can be read as one, and no
required field is missing. -/
theorem mismatch?_required_eq_none_iff {name : String} {fields : List (String × Presence × Shape)}
    (hkeys : (fields.map (·.1)).Nodup) (members : List (String × Value)) :
    (record name fields).mismatch? (.object members) = none ↔
      (∀ field ∈ fields, ∀ v, (field.1, v) ∈ members → FieldReads field v) ∧
        ∀ field ∈ fields, field.2.1 = .required → (members.lookup field.1).isSome := by
  unfold mismatch?
  rw [Option.or_eq_none_iff, missing?_eq_none_iff, List.findSome?_eq_none_iff]
  refine and_congr_left' ?_
  simp only [memberMismatch?_eq_none_iff hkeys]
  constructor
  · intro h field hfield v hv
    exact h (field.1, v) hv field hfield rfl
  · intro h m hm field hfield hkey
    have hmem : (field.1, m.2) ∈ members := by
      rw [hkey]
      exact hm
    exact h field hfield m.2 hmem

theorem mismatch?_object_eq_none_iff {name : String} {fields : List (String × Presence × Shape)}
    (hkeys : (fields.map (·.1)).Nodup) (hpresence : ∀ field ∈ fields, field.2.1 ≠ .required)
    (members : List (String × Value)) :
    (record name fields).mismatch? (.object members) = none ↔
      ∀ field ∈ fields, ∀ v, (field.1, v) ∈ members → FieldReads field v := by
  rw [mismatch?_required_eq_none_iff hkeys]
  exact and_iff_left fun field hfield hrequired => absurd hrequired (hpresence field hfield)

theorem itemMismatch?_eq_none_iff (name : String) (size : Nat) (all : List Value)
    (fields : List (String × Presence × Shape)) (items : List Value) :
    itemMismatch? name size all fields items = none ↔
      items.length ≤ fields.length ∧
        (∀ field ∈ fields.drop items.length, field.2.1 = .defaulted) ∧
          ∀ read ∈ fields.zip items, FieldReads read.1 read.2 := by
  induction fields generalizing items with
  | nil => cases items <;> simp [itemMismatch?]
  | cons field rest ih =>
    obtain ⟨key, presence, shape⟩ := field
    cases items with
    | nil =>
      unfold itemMismatch?
      by_cases hpresence : presence = .defaulted
      · rw [if_pos hpresence, ih]
        simp [hpresence]
      · simp [hpresence]
    | cons v vs =>
      unfold itemMismatch?
      rw [Option.or_eq_none_iff, ih]
      have hfirst := fieldReads_iff key presence shape v
      simp only [List.length_cons, Nat.add_le_add_iff_right, List.drop_succ_cons, List.zip_cons_cons,
        List.forall_mem_cons]
      constructor
      · rintro ⟨hv, hlength, hdrop, hreads⟩
        exact ⟨hlength, hdrop, hfirst.mpr hv, hreads⟩
      · rintro ⟨hlength, hdrop, hv, hreads⟩
        exact ⟨hfirst.mp hv, hlength, hdrop, hreads⟩

theorem mismatch?_array_eq_none_iff (name : String) (fields : List (String × Presence × Shape))
    (items : List Value) :
    (record name fields).mismatch? (.array items) = none ↔
      items.length ≤ fields.length ∧
        (∀ field ∈ fields.drop items.length, field.2.1 = .defaulted) ∧
          ∀ read ∈ fields.zip items, FieldReads read.1 read.2 := by
  rw [mismatch?, itemMismatch?_eq_none_iff]

theorem mismatch?_items_eq_none_iff {name : String} {fields : List (String × Presence × Shape)}
    (hpresence : ∀ field ∈ fields, field.2.1 ≠ .defaulted) (items : List Value) :
    (record name fields).mismatch? (.array items) = none ↔
      List.Forall₂ FieldReads fields items := by
  rw [mismatch?_array_eq_none_iff, List.forall₂_iff_zip]
  constructor
  · rintro ⟨hlength, hdrop, hreads⟩
    refine ⟨?_, fun hread => hreads _ hread⟩
    by_contra hne
    -- a field is left out, and has no default
    have hlt : items.length < fields.length := by omega
    have hmem : fields[items.length] ∈ fields.drop items.length := by
      rw [List.drop_eq_getElem_cons hlt]
      exact .head _
    exact hpresence _ (List.getElem_mem hlt) (hdrop _ hmem)
  · rintro ⟨hlength, hreads⟩
    rw [← hlength, List.drop_length]
    exact ⟨Nat.le_refl _, List.forall_mem_nil _, fun read hread => hreads hread⟩

theorem mismatch?_table_eq_none_iff {entry : Shape} {P : Value → Prop}
    (h : ∀ v, entry.mismatch? v = none ↔ P v) (v : Value) :
    (table entry).mismatch? v = none ↔ ∃ members, v = .object members ∧ ∀ m ∈ members, P m.2 := by
  cases v with
  | object members =>
    rw [mismatch?, List.findSome?_eq_none_iff]
    simp only [h, Value.object.injEq, exists_eq_left']
  | null | bool | integer | float | string | array => simp [mismatch?]

end Shape

end SceneMarkup.Json
