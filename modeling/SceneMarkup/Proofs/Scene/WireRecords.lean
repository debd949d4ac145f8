import SceneMarkup.Proofs.Json.Records
import SceneMarkup.Scene.Decode

/-!
# What the wire records read

For each kind of node, which objects its record reads: every field has to be absent, null, or of its
type. The predicates say it of the members one by one; the lemmas say that a shape has no mismatch
just then. No words are told apart here, and no member counts that is not named.
-/

namespace SceneMarkup

open Json (Value Shape OptionalMember)
open Json.Value (IsText IsNumber IsFlag IsArray)

/-! ## The records -/

def Frame.textKeys : List String :=
  ["name", "layoutMode", "layoutWrap", "primaryAxisAlignItems", "counterAxisAlignItems",
    "layoutSizingHorizontal", "layoutSizingVertical"]

def Frame.numberKeys : List String :=
  ["itemSpacing", "paddingTop", "paddingBottom", "paddingLeft", "paddingRight", "width", "height"]

/-- The fields of a frame can be read from the members of an object. -/
structure Frame.Reads (members : List (String × Value)) : Prop where
  texts : ∀ key ∈ Frame.textKeys, OptionalMember IsText members key
  numbers : ∀ key ∈ Frame.numberKeys, OptionalMember IsNumber members key

/-- A line height is an object with a unit and a number, or the list of the two. -/
inductive LineHeight.Reads : Value → Prop where
  | object {members : List (String × Value)} (hunit : OptionalMember IsText members "unit")
      (hvalue : OptionalMember IsNumber members "value") : Reads (.object members)
  | array {unit value : Value} (hunit : unit.OrNull IsText) (hvalue : value.OrNull IsNumber) :
      Reads (.array [unit, value])

structure TextRun.Reads (members : List (String × Value)) : Prop where
  texts : ∀ key ∈ ["name", "characters"], OptionalMember IsText members key
  fontSize : OptionalMember IsNumber members "fontSize"
  lineHeight : OptionalMember LineHeight.Reads members "lineHeight"

/-- A property is an object with a type, or the list of a type and perhaps a value. -/
inductive Property.Reads : Value → Prop where
  | object {members : List (String × Value)} (htype : OptionalMember IsText members "type") :
      Reads (.object members)
  | array {type : Value} {value : List Value} (htype : type.OrNull IsText)
      (hvalue : value.length ≤ 1) : Reads (.array (type :: value))

def Property.BagReads (v : Value) : Prop :=
  ∃ entries, v = .object entries ∧ ∀ entry ∈ entries, Property.Reads entry.2

def Property.MemberReads (members : List (String × Value)) : Prop :=
  OptionalMember Property.BagReads members "componentProperties"

def ChildrenRead (members : List (String × Value)) : Prop :=
  ∀ v, members.lookup "children" = some v → v.OrNull IsArray

/-- The members of an object say whether a node is shown, or say nothing of it. -/
def VisibleReads (members : List (String × Value)) : Prop :=
  ∀ v, members.lookup "visible" = some v → v.OrNull IsFlag

/-! ## Their shapes -/

theorem frame_mismatch?_eq_none_iff (members : List (String × Value)) :
    Frame.shape.mismatch? (.object members) = none ↔ Frame.Reads members := by
  unfold Frame.shape
  rw [Shape.mismatch?_object_eq_none_iff (by decide) (by decide)]
  -- the list of fields is the one of texts before the one of numbers
  simp only [List.forall_mem_append, optionalFields, List.forall_mem_map, Shape.fieldReads_text,
    Shape.fieldReads_number]
  constructor
  · rintro ⟨htexts, hnumbers⟩
    exact ⟨htexts, hnumbers⟩
  · rintro ⟨htexts, hnumbers⟩
    exact ⟨htexts, hnumbers⟩

theorem lineHeight_mismatch?_eq_none_iff (v : Value) :
    LineHeight.shape.mismatch? v = none ↔ LineHeight.Reads v := by
  unfold LineHeight.shape
  cases v with
  | object members =>
    rw [Shape.mismatch?_object_eq_none_iff (by decide) (by decide)]
    simp only [List.forall_mem_cons, Shape.fieldReads_text, Shape.fieldReads_number]
    constructor
    · rintro ⟨hunit, hvalue, -⟩
      exact .object hunit hvalue
    · rintro ⟨hunit, hvalue⟩
      exact ⟨hunit, hvalue, List.forall_mem_nil _⟩
  | array items =>
    rw [Shape.mismatch?_items_eq_none_iff (by decide)]
    simp only [List.forall₂_cons_left_iff, List.forall₂_nil_left_iff, Shape.fieldReads_text,
      Shape.fieldReads_number]
    constructor
    · rintro ⟨unit, _, hunit, ⟨value, _, hvalue, rfl, rfl⟩, rfl⟩
      exact .array hunit hvalue
    · rintro (_ | ⟨hunit, hvalue⟩)
      exact ⟨_, _, hunit, ⟨_, _, hvalue, rfl, rfl⟩, rfl⟩
  | null | bool | integer | float | string =>
    constructor
    · intro h
      simp [Shape.mismatch?] at h
    · rintro ⟨⟩

theorem text_mismatch?_eq_none_iff (members : List (String × Value)) :
    TextRun.shape.mismatch? (.object members) = none ↔ TextRun.Reads members := by
  unfold TextRun.shape
  rw [Shape.mismatch?_object_eq_none_iff (by decide) (by decide)]
  simp only [List.forall_mem_cons, Shape.fieldReads_text, Shape.fieldReads_number,
    Shape.fieldReads_optional lineHeight_mismatch?_eq_none_iff]
  constructor
  · rintro ⟨hname, hcharacters, hsize, hheight, -⟩
    refine ⟨?_, hsize, hheight⟩
    rw [List.forall_mem_cons, List.forall_mem_singleton]
    exact ⟨hname, hcharacters⟩
  · rintro ⟨htexts, hsize, hheight⟩
    rw [List.forall_mem_cons, List.forall_mem_singleton] at htexts
    exact ⟨htexts.1, htexts.2, hsize, hheight, List.forall_mem_nil _⟩

theorem property_mismatch?_eq_none_iff (v : Value) :
    Property.shape.mismatch? v = none ↔ Property.Reads v := by
  unfold Property.shape
  cases v with
  | object members =>
    rw [Shape.mismatch?_object_eq_none_iff (by decide) (by decide)]
    simp only [List.forall_mem_cons, Shape.fieldReads_text]
    constructor
    · rintro ⟨htype, -⟩
      exact .object htype
    · rintro ⟨htype⟩
      exact ⟨htype, fun v _ => Shape.fieldReads_anything _ _ v, List.forall_mem_nil _⟩
  | array items =>
    rw [Shape.mismatch?_array_eq_none_iff]
    constructor
    · -- the value has a default, and the type has none
      rintro ⟨hlength, hdrop, hreads⟩
      cases items with
      | nil => simp at hdrop
      | cons type value =>
        rw [List.zip_cons_cons, List.forall_mem_cons, Shape.fieldReads_text] at hreads
        exact .array hreads.1 (by simpa using hlength)
    · rintro (_ | ⟨htype, hvalue⟩)
      rename_i type value
      rcases value with _ | ⟨value, _ | ⟨more, value⟩⟩
      · simp [htype]
      · simp [htype]
      · simp at hvalue
  | null | bool | integer | float | string =>
    constructor
    · intro h
      simp [Shape.mismatch?] at h
    · rintro ⟨⟩

theorem bag_mismatch?_eq_none_iff (members : List (String × Value)) :
    Property.bagShape.mismatch? (.object members) = none ↔ Property.MemberReads members := by
  unfold Property.bagShape
  rw [Shape.mismatch?_object_eq_none_iff (by decide) (by decide)]
  simp only [List.forall_mem_singleton, Shape.fieldReads_optional
    (Shape.mismatch?_table_eq_none_iff property_mismatch?_eq_none_iff)]
  rfl

/-! ## Children and visibility -/

theorem childValues?_eq_none_iff (members : List (String × Value)) :
    childValues? (.object members) = none ↔ ¬ ChildrenRead members := by
  simp only [childValues?, ChildrenRead, Value.OrNull, Value.member?]
  cases members.lookup "children" with
  | none => simp
  | some v => cases v <;> simp [IsArray]

theorem nodeVisible?_eq_none_iff (members : List (String × Value)) :
    nodeVisible? (.object members) = none ↔ ¬ VisibleReads members := by
  simp only [nodeVisible?, VisibleReads, Value.OrNull, Value.member?]
  cases members.lookup "visible" with
  | none => simp
  | some v => cases v <;> simp [IsFlag]

end SceneMarkup
