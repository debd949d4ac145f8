import SceneMarkup.Proofs.Scene.WireRecords

/-!
# What the entries of fills are read as

`Fill.Reads` says which values are read as a fill, and as which one; decoding a list keeps to it
entry by entry (`fill_reads_iff`), so that entries that cannot be read do not matter to the others.
The first entry that is a visible solid fill decides on the colour (`firstSolid_iff`).
-/

namespace SceneMarkup

open Json (Value Shape OptionalMember)
open Json.Value (IsText IsNumber IsFlag)

/-! ## Members that are read -/

section Reading

variable {α : Type} (R : Value → α → Prop)

/-- What an optional value is read as. Null is as good as absent. -/
inductive OptionalReads : Option Value → Option α → Prop where
  | absent : OptionalReads none none
  | null : OptionalReads (some .null) none
  | value {v : Value} {a : α} (h : R v a) : OptionalReads (some v) (some a)

/-- What an optional member of an object is read as. If there are several of a key, all have to be
readable. -/
structure MemberReads (members : List (String × Value)) (key : String) (a : Option α) : Prop where
  readable : OptionalMember (fun v => ∃ a, R v a) members key
  value : OptionalReads R (members.lookup key) a

structure RequiredReads (members : List (String × Value)) (key : String) (a : α) : Prop where
  readable : ∀ v, (key, v) ∈ members → ∃ a, R v a
  value : ∃ v, members.lookup key = some v ∧ R v a

end Reading

/-- A function takes apart the values that pass a check. -/
structure IsReader {α : Type} (R : Value → α → Prop) (P : Value → Prop) (read : Value → Option α) :
    Prop where
  reads_iff (v : Value) (a : α) : R v a ↔ P v ∧ read v = some a
  total {v : Value} (h : P v) : ∃ a, read v = some a
  null : read .null = none

theorem mem_of_lookup {key : String} {v : Value} {members : List (String × Value)}
    (h : members.lookup key = some v) : (key, v) ∈ members := by
  obtain ⟨before, after, rfl, -⟩ := List.lookup_eq_some_iff.mp h
  exact List.mem_append_right _ (.head _)

namespace IsReader

variable {α : Type} {R : Value → α → Prop} {P : Value → Prop} {read : Value → Option α}

theorem exists_iff (h : IsReader R P read) (v : Value) : (∃ a, R v a) ↔ P v := by
  constructor
  · rintro ⟨a, ha⟩
    exact ((h.reads_iff v a).mp ha).1
  · intro hv
    obtain ⟨a, ha⟩ := h.total hv
    exact ⟨a, (h.reads_iff v a).mpr ⟨hv, ha⟩⟩

theorem optionalReads_iff (h : IsReader R P read) (o : Option Value) (a : Option α) :
    OptionalReads R o a ↔ (∀ v ∈ o, v.OrNull P) ∧ o.bind read = a := by
  constructor
  · rintro (_ | _ | ha)
    · exact ⟨nofun, rfl⟩
    · exact ⟨by simp [Value.OrNull], h.null⟩
    · rename_i v a
      obtain ⟨hv, ha⟩ := (h.reads_iff v a).mp ha
      exact ⟨by simp [Value.OrNull, hv], ha⟩
  · rintro ⟨hnull, rfl⟩
    cases o with
    | none => exact .absent
    | some v =>
      rcases hnull v rfl with rfl | hv
      · rw [Option.bind_some, h.null]
        exact .null
      · obtain ⟨a, ha⟩ := h.total hv
        rw [Option.bind_some, ha]
        exact .value ((h.reads_iff v a).mpr ⟨hv, ha⟩)

theorem memberReads_iff (h : IsReader R P read) (members : List (String × Value)) (key : String)
    (a : Option α) :
    MemberReads R members key a ↔
      OptionalMember P members key ∧ (members.lookup key).bind read = a := by
  have hreadable : OptionalMember (fun v => ∃ a, R v a) members key ↔
      OptionalMember P members key := by
    simp only [OptionalMember, h.exists_iff]
  constructor
  · rintro ⟨hall, hvalue⟩
    exact ⟨hreadable.mp hall, ((h.optionalReads_iff _ a).mp hvalue).2⟩
  · rintro ⟨hall, ha⟩
    refine ⟨hreadable.mpr hall, (h.optionalReads_iff _ a).mpr ⟨fun v hv => ?_, ha⟩⟩
    exact hall v (mem_of_lookup hv)

theorem requiredReads_iff (h : IsReader R P read) (members : List (String × Value)) (key : String)
    (a : α) :
    RequiredReads R members key a ↔
      ((∀ v, (key, v) ∈ members → P v) ∧ (members.lookup key).isSome) ∧
        (members.lookup key).bind read = some a := by
  have hreadable : (∀ v, (key, v) ∈ members → ∃ a, R v a) ↔ ∀ v, (key, v) ∈ members → P v := by
    simp only [h.exists_iff]
  constructor
  · rintro ⟨hall, v, hv, ha⟩
    rw [hv]
    exact ⟨⟨hreadable.mp hall, rfl⟩, ((h.reads_iff v a).mp ha).2⟩
  · rintro ⟨⟨hall, -⟩, ha⟩
    obtain ⟨v, hv, ha⟩ := Option.bind_eq_some_iff.mp ha
    exact ⟨hreadable.mpr hall, v, hv, (h.reads_iff v a).mpr ⟨hall v (mem_of_lookup hv), ha⟩⟩

theorem exists_bind_lookup (h : IsReader R P read) {members : List (String × Value)} {key : String}
    (hall : ∀ v, (key, v) ∈ members → P v) (hthere : (members.lookup key).isSome) :
    ∃ a, (members.lookup key).bind read = some a := by
  obtain ⟨v, hv⟩ := Option.isSome_iff_exists.mp hthere
  rw [hv]
  exact h.total (hall v (mem_of_lookup hv))

end IsReader

theorem isReader_text : IsReader (fun v s => v = .string s) IsText Value.string? where
  reads_iff v s := by cases v <;> simp [IsText, Value.string?]
  total := by
    rintro v ⟨s, rfl⟩
    exact ⟨s, rfl⟩
  null := rfl

theorem isReader_flag : IsReader (fun v b => v = .bool b) IsFlag Value.flag? where
  reads_iff v b := by cases v <;> simp [IsFlag, Value.flag?]
  total := by
    rintro v ⟨b, rfl⟩
    exact ⟨b, rfl⟩
  null := rfl

theorem isReader_number : IsReader (fun v x => v.number? = some x) IsNumber Value.number? where
  reads_iff v x := by cases v <;> simp [IsNumber, Value.number?]
  total := by
    rintro v (⟨n, rfl⟩ | ⟨x, rfl⟩)
    · exact ⟨_, rfl⟩
    · exact ⟨x, rfl⟩
  null := rfl

/-! ## Colours and fills -/

/-- A colour is an object with three numbers, or the list of them. -/
inductive Rgb.Reads : Value → Rgb → Prop where
  | object {members : List (String × Value)} {r g b : Float}
      (hr : RequiredReads (fun v x => v.number? = some x) members "r" r)
      (hg : RequiredReads (fun v x => v.number? = some x) members "g" g)
      (hb : RequiredReads (fun v x => v.number? = some x) members "b" b) :
      Reads (.object members) ⟨r, g, b⟩
  | array {u v w : Value} {r g b : Float} (hr : u.number? = some r) (hg : v.number? = some g)
      (hb : w.number? = some b) : Reads (.array [u, v, w]) ⟨r, g, b⟩

/-- A fill is an object with a type, a flag whether it is visible and a colour, or the list of the
three. Any of them may be null, and the members may be missing; it is visible unless it says no. -/
inductive Fill.Reads : Value → Fill → Prop where
  | object {members : List (String × Value)} {type : Option String} {visible : Option Bool}
      {color : Option Rgb} (htype : MemberReads (fun v s => v = .string s) members "type" type)
      (hvisible : MemberReads (fun v b => v = .bool b) members "visible" visible)
      (hcolor : MemberReads Rgb.Reads members "color" color) :
      Reads (.object members) ⟨type.getD "", visible != some false, color⟩
  | array {t v c : Value} {type : Option String} {visible : Option Bool} {color : Option Rgb}
      (htype : OptionalReads (fun v s => v = .string s) (some t) type)
      (hvisible : OptionalReads (fun v b => v = .bool b) (some v) visible)
      (hcolor : OptionalReads Rgb.Reads (some c) color) :
      Reads (.array [t, v, c]) ⟨type.getD "", visible != some false, color⟩

theorem rgb_ofValue?_eq_some_iff (v : Value) (c : Rgb) :
    Rgb.ofValue? v = some c ↔
      numberField Rgb.shape "r" v = some c.r ∧ numberField Rgb.shape "g" v = some c.g ∧
        numberField Rgb.shape "b" v = some c.b := by
  obtain ⟨r, g, b⟩ := c
  simp only [Rgb.ofValue?, Option.bind_eq_bind, Option.bind_eq_some_iff, Option.pure_def,
    Option.some.injEq, Rgb.mk.injEq]
  constructor
  · rintro ⟨_, hr, _, hg, _, hb, rfl, rfl, rfl⟩
    exact ⟨hr, hg, hb⟩
  · rintro ⟨hr, hg, hb⟩
    exact ⟨r, hr, g, hg, b, hb, rfl, rfl, rfl⟩

theorem rgb_mismatch?_object_eq_none_iff (members : List (String × Value)) :
    Rgb.shape.mismatch? (.object members) = none ↔
      ((∀ v, ("r", v) ∈ members → v.IsNumber) ∧ (∀ v, ("g", v) ∈ members → v.IsNumber) ∧
        ∀ v, ("b", v) ∈ members → v.IsNumber) ∧
      (members.lookup "r").isSome ∧ (members.lookup "g").isSome ∧
        (members.lookup "b").isSome := by
  unfold Rgb.shape
  rw [Shape.mismatch?_required_eq_none_iff (by decide)]
  simp only [List.forall_mem_cons, Shape.fieldReads_required_number, List.not_mem_nil, forall_const,
    false_implies, implies_true, and_true]

theorem rgb_mismatch?_array_eq_none_iff (items : List Value) :
    Rgb.shape.mismatch? (.array items) = none ↔
      ∃ u v w, items = [u, v, w] ∧ u.IsNumber ∧ v.IsNumber ∧ w.IsNumber := by
  unfold Rgb.shape
  rw [Shape.mismatch?_items_eq_none_iff (by decide)]
  simp only [List.forall₂_cons_left_iff, List.forall₂_nil_left_iff,
    Shape.fieldReads_required_number]
  constructor
  · rintro ⟨u, _, hu, ⟨v, _, hv, ⟨w, _, hw, rfl, rfl⟩, rfl⟩, rfl⟩
    exact ⟨u, v, w, rfl, hu, hv, hw⟩
  · rintro ⟨u, v, w, rfl, hu, hv, hw⟩
    exact ⟨u, _, hu, ⟨v, _, hv, ⟨w, _, hw, rfl, rfl⟩, rfl⟩, rfl⟩

theorem rgb_reads_object_iff (members : List (String × Value)) (c : Rgb) :
    Rgb.Reads (.object members) c ↔
      Rgb.shape.mismatch? (.object members) = none ∧ Rgb.ofValue? (.object members) = some c := by
  rw [rgb_mismatch?_object_eq_none_iff, rgb_ofValue?_eq_some_iff]
  constructor
  · rintro ⟨hr, hg, hb⟩
    obtain ⟨⟨hr, hrthere⟩, hr'⟩ := (isReader_number.requiredReads_iff ..).mp hr
    obtain ⟨⟨hg, hgthere⟩, hg'⟩ := (isReader_number.requiredReads_iff ..).mp hg
    obtain ⟨⟨hb, hbthere⟩, hb'⟩ := (isReader_number.requiredReads_iff ..).mp hb
    exact ⟨⟨⟨hr, hg, hb⟩, hrthere, hgthere, hbthere⟩, hr', hg', hb'⟩
  · rintro ⟨⟨⟨hr, hg, hb⟩, hrthere, hgthere, hbthere⟩, hr', hg', hb'⟩
    exact .object ((isReader_number.requiredReads_iff ..).mpr ⟨⟨hr, hrthere⟩, hr'⟩)
      ((isReader_number.requiredReads_iff ..).mpr ⟨⟨hg, hgthere⟩, hg'⟩)
      ((isReader_number.requiredReads_iff ..).mpr ⟨⟨hb, hbthere⟩, hb'⟩)

theorem rgb_reads_array_iff (items : List Value) (c : Rgb) :
    Rgb.Reads (.array items) c ↔
      Rgb.shape.mismatch? (.array items) = none ∧ Rgb.ofValue? (.array items) = some c := by
  rw [rgb_mismatch?_array_eq_none_iff, rgb_ofValue?_eq_some_iff]
  constructor
  · rintro (_ | ⟨hr, hg, hb⟩)
    exact ⟨⟨_, _, _, rfl, ((isReader_number.reads_iff ..).mp hr).1,
      ((isReader_number.reads_iff ..).mp hg).1, ((isReader_number.reads_iff ..).mp hb).1⟩,
      hr, hg, hb⟩
  · rintro ⟨⟨u, v, w, rfl, -⟩, hr, hg, hb⟩
    exact .array hr hg hb

theorem exists_rgb {v : Value} (h : Rgb.shape.mismatch? v = none) :
    ∃ c, Rgb.ofValue? v = some c := by
  have hchannels : (∃ r, numberField Rgb.shape "r" v = some r) ∧
      (∃ g, numberField Rgb.shape "g" v = some g) ∧
        ∃ b, numberField Rgb.shape "b" v = some b := by
    cases v with
    | object members =>
      obtain ⟨⟨hr, hg, hb⟩, hrthere, hgthere, hbthere⟩ :=
        (rgb_mismatch?_object_eq_none_iff members).mp h
      exact ⟨isReader_number.exists_bind_lookup hr hrthere,
        isReader_number.exists_bind_lookup hg hgthere,
        isReader_number.exists_bind_lookup hb hbthere⟩
    | array items =>
      obtain ⟨u, v, w, rfl, hu, hv, hw⟩ := (rgb_mismatch?_array_eq_none_iff items).mp h
      exact ⟨isReader_number.total hu, isReader_number.total hv, isReader_number.total hw⟩
    | null | bool | integer | float | string => simp [Rgb.shape, Shape.mismatch?] at h
  obtain ⟨⟨r, hr⟩, ⟨g, hg⟩, b, hb⟩ := hchannels
  exact ⟨⟨r, g, b⟩, (rgb_ofValue?_eq_some_iff v _).mpr ⟨hr, hg, hb⟩⟩

theorem isReader_rgb :
    IsReader Rgb.Reads (fun v => Rgb.shape.mismatch? v = none) Rgb.ofValue? where
  reads_iff v c := by
    cases v with
    | object members => exact rgb_reads_object_iff members c
    | array items => exact rgb_reads_array_iff items c
    | null | bool | integer | float | string =>
      constructor
      · rintro ⟨⟩
      · simp [Rgb.shape, Shape.mismatch?]
  total := exists_rgb
  null := rfl

theorem fieldReads_color (v : Value) :
    Shape.FieldReads ("color", .optional, Rgb.shape) v ↔
      v.OrNull fun v => Rgb.shape.mismatch? v = none :=
  Shape.fieldReads_optional (fun _ => Iff.rfl) v

theorem fill_mismatch?_object_eq_none_iff (members : List (String × Value)) :
    Fill.shape.mismatch? (.object members) = none ↔
      OptionalMember IsText members "type" ∧ OptionalMember IsFlag members "visible" ∧
        OptionalMember (fun v => Rgb.shape.mismatch? v = none) members "color" := by
  unfold Fill.shape
  rw [Shape.mismatch?_object_eq_none_iff (by decide) (by decide)]
  simp only [List.forall_mem_cons, Shape.fieldReads_text, Shape.fieldReads_flag,
    fieldReads_color]
  constructor
  · rintro ⟨htype, hvisible, hcolor, -⟩
    exact ⟨htype, hvisible, hcolor⟩
  · rintro ⟨htype, hvisible, hcolor⟩
    exact ⟨htype, hvisible, hcolor, List.forall_mem_nil _⟩

theorem fill_mismatch?_array_eq_none_iff (items : List Value) :
    Fill.shape.mismatch? (.array items) = none ↔
      ∃ t v c, items = [t, v, c] ∧ t.OrNull IsText ∧ v.OrNull IsFlag ∧
        c.OrNull fun v => Rgb.shape.mismatch? v = none := by
  unfold Fill.shape
  rw [Shape.mismatch?_items_eq_none_iff (by decide)]
  simp only [List.forall₂_cons_left_iff, List.forall₂_nil_left_iff, Shape.fieldReads_text,
    Shape.fieldReads_flag, fieldReads_color]
  constructor
  · rintro ⟨t, _, ht, ⟨v, _, hv, ⟨c, _, hc, rfl, rfl⟩, rfl⟩, rfl⟩
    exact ⟨t, v, c, rfl, ht, hv, hc⟩
  · rintro ⟨t, v, c, rfl, ht, hv, hc⟩
    exact ⟨t, _, ht, ⟨v, _, hv, ⟨c, _, hc, rfl, rfl⟩, rfl⟩, rfl⟩

theorem fill_reads_iff (v : Value) (f : Fill) :
    Fill.Reads v f ↔ Fill.shape.mismatch? v = none ∧ Fill.ofValue v = f := by
  cases v with
  | object members =>
    rw [fill_mismatch?_object_eq_none_iff]
    constructor
    · rintro (⟨htype, hvisible, hcolor⟩ | _)
      obtain ⟨htype', rfl⟩ := (isReader_text.memberReads_iff ..).mp htype
      obtain ⟨hvisible', rfl⟩ := (isReader_flag.memberReads_iff ..).mp hvisible
      obtain ⟨hcolor', rfl⟩ := (isReader_rgb.memberReads_iff ..).mp hcolor
      exact ⟨⟨htype', hvisible', hcolor'⟩, rfl⟩
    · rintro ⟨⟨htype, hvisible, hcolor⟩, rfl⟩
      exact .object ((isReader_text.memberReads_iff ..).mpr ⟨htype, rfl⟩)
        ((isReader_flag.memberReads_iff ..).mpr ⟨hvisible, rfl⟩)
        ((isReader_rgb.memberReads_iff ..).mpr ⟨hcolor, rfl⟩)
  | array items =>
    rw [fill_mismatch?_array_eq_none_iff]
    constructor
    · rintro (_ | ⟨htype, hvisible, hcolor⟩)
      obtain ⟨htype', rfl⟩ := (isReader_text.optionalReads_iff ..).mp htype
      obtain ⟨hvisible', rfl⟩ := (isReader_flag.optionalReads_iff ..).mp hvisible
      obtain ⟨hcolor', rfl⟩ := (isReader_rgb.optionalReads_iff ..).mp hcolor
      exact ⟨⟨_, _, _, rfl, htype' _ rfl, hvisible' _ rfl, hcolor' _ rfl⟩, rfl⟩
    · rintro ⟨⟨t, v, c, rfl, htype, hvisible, hcolor⟩, rfl⟩
      refine .array ((isReader_text.optionalReads_iff ..).mpr ⟨?_, rfl⟩)
        ((isReader_flag.optionalReads_iff ..).mpr ⟨?_, rfl⟩)
        ((isReader_rgb.optionalReads_iff ..).mpr ⟨?_, rfl⟩)
      · rintro _ ⟨⟩
        exact htype
      · rintro _ ⟨⟩
        exact hvisible
      · rintro _ ⟨⟩
        exact hcolor
  | null | bool | integer | float | string =>
    constructor
    · rintro ⟨⟩
    · simp [Fill.shape, Shape.mismatch?]

/-! ## Lists of fills -/

namespace Fill

def IsSolid (v : Value) (c : Rgb) : Prop := Reads v ⟨"SOLID", true, some c⟩

/-- The colour of the first entry that is a visible solid fill, whatever the other entries are; none
without such an entry, as there is in anything but a list. -/
inductive FirstSolid : Value → Option Rgb → Prop where
  | none {v : Value} (h : ∀ items, v = .array items → ∀ item ∈ items, ∀ c, ¬ IsSolid item c) :
      FirstSolid v none
  | some {before after : List Value} {item : Value} {c : Rgb}
      (hbefore : ∀ other ∈ before, ∀ c, ¬ IsSolid other c) (h : IsSolid item c) :
      FirstSolid (.array (before ++ item :: after)) (some c)

theorem listOf_append (before after : List Value) :
    listOf (some (.array (before ++ after))) =
      listOf (some (.array before)) ++ listOf (some (.array after)) :=
  List.filterMap_append

theorem listOf_of_reads {v : Value} {f : Fill} (h : Reads v f) :
    listOf (some (.array [v])) = [f] := by
  obtain ⟨hshape, rfl⟩ := (fill_reads_iff v f).mp h
  simp [listOf, hshape]

theorem listOf_of_not_reads {v : Value} (h : ∀ f, ¬ Reads v f) :
    listOf (some (.array [v])) = [] := by
  have hshape : shape.mismatch? v ≠ none := fun hnone =>
    h (ofValue v) ((fill_reads_iff v _).mpr ⟨hnone, rfl⟩)
  simp [listOf, hshape]

theorem listOf_of_not_isArray {v : Value} (h : ¬ v.IsArray) : listOf (some v) = [] := by
  cases v with
  | array items => exact absurd ⟨items, rfl⟩ h
  | null | bool | integer | float | string | object => rfl

theorem solidColor?_eq_some_iff (f : Fill) (c : Rgb) :
    f.solidColor? = some c ↔ f = ⟨"SOLID", true, some c⟩ := by
  obtain ⟨kind, visible, color⟩ := f
  simp only [solidColor?, Option.ite_none_right_eq_some, Fill.mk.injEq, and_assoc]

def entryColor? (v : Value) : Option Rgb :=
  (if (shape.mismatch? v).isNone then some (ofValue v) else none).bind solidColor?

theorem entryColor?_eq_some_iff (v : Value) (c : Rgb) : entryColor? v = some c ↔ IsSolid v c := by
  rw [IsSolid, fill_reads_iff, entryColor?, ← solidColor?_eq_some_iff]
  cases shape.mismatch? v <;> simp

theorem entryColor?_eq_none_iff (v : Value) : entryColor? v = none ↔ ∀ c, ¬ IsSolid v c := by
  simp only [Option.eq_none_iff_forall_ne_some, ne_eq, entryColor?_eq_some_iff]

theorem findSome?_listOf (items : List Value) :
    (listOf (some (.array items))).findSome? solidColor? = items.findSome? entryColor? := by
  rw [← List.head?_filterMap, listOf, List.filterMap_filterMap, List.head?_filterMap]
  rfl

/-- The first visible solid fill of what is decoded is the first one among the entries. -/
theorem firstSolid_iff (v : Value) (color : Option Rgb) :
    FirstSolid v color ↔ (listOf (some v)).findSome? solidColor? = color := by
  constructor
  · rintro (h | ⟨hbefore, h⟩)
    · by_cases harray : v.IsArray
      · obtain ⟨items, rfl⟩ := harray
        rw [findSome?_listOf, List.findSome?_eq_none_iff]
        exact fun item hitem => (entryColor?_eq_none_iff item).mpr (h items rfl item hitem)
      · rw [listOf_of_not_isArray harray, List.findSome?_nil]
    · rename_i before after item c
      rw [findSome?_listOf, List.findSome?_eq_some_iff]
      exact ⟨before, item, after, rfl, (entryColor?_eq_some_iff item c).mpr h,
        fun other hother => (entryColor?_eq_none_iff other).mpr (hbefore other hother)⟩
  · rintro rfl
    by_cases harray : v.IsArray
    · obtain ⟨items, rfl⟩ := harray
      rw [findSome?_listOf]
      cases hfound : items.findSome? entryColor? with
      | none =>
        refine .none ?_
        rintro _ ⟨⟩ item hitem
        exact (entryColor?_eq_none_iff item).mp (List.findSome?_eq_none_iff.mp hfound item hitem)
      | some c =>
        obtain ⟨before, item, after, rfl, hitem, hbefore⟩ := List.findSome?_eq_some_iff.mp hfound
        exact .some (fun other hother => (entryColor?_eq_none_iff other).mp (hbefore other hother))
          ((entryColor?_eq_some_iff item c).mp hitem)
    · rw [listOf_of_not_isArray harray, List.findSome?_nil]
      exact .none fun items hitems => absurd ⟨items, hitems⟩ harray

end Fill

end SceneMarkup
