import SceneMarkup.Proofs.Scene.DepthCut
import SceneMarkup.Proofs.Scene.Places

/-!
# Values that agree are read alike

Where a value is of the shape of its place, every value that agrees with it is so too
(`Agree.mismatch?_eq_none_iff`), although the first mismatch may be another one. Their fields agree
(`Agree.field?`), so they are taken apart alike: as frames, texts, fills and properties, and as
children that agree one by one.
-/

namespace SceneMarkup

open Json (Value Shape DistinctKeys)

/-! ## Fields of records -/

namespace Json.Shape

variable {name : String} {fields : List (String × Presence × Shape)} {key : String}

theorem memberShape?_eq_some_iff {t : Shape} :
    (record name fields).memberShape? key = some t ↔
      ∃ field, fields.find? (·.1 = key) = some field ∧ field.2.2 = t :=
  Option.map_eq_some_iff

theorem exists_memberShape? {field : String × Presence × Shape} (h : field ∈ fields) :
    ∃ t, (record name fields).memberShape? field.1 = some t := by
  have hnamed : (fields.find? (·.1 = field.1)).isSome := List.find?_isSome.mpr ⟨field, h, by simp⟩
  obtain ⟨first, hfirst⟩ := Option.isSome_iff_exists.mp hnamed
  exact ⟨_, memberShape?_eq_some_iff.mpr ⟨first, hfirst, rfl⟩⟩

theorem memberMismatch?_eq_none_iff_find? (fields : List (String × Presence × Shape)) (key : String)
    (v : Value) :
    memberMismatch? fields key v = none ↔
      ∀ field, fields.find? (·.1 = key) = some field → FieldReads field v := by
  induction fields with
  | nil => simp [memberMismatch?]
  | cons field rest ih =>
    obtain ⟨k, presence, shape⟩ := field
    unfold memberMismatch?
    rw [List.find?_cons]
    by_cases hk : key = k
    · subst hk
      simp only [if_true, decide_true, Option.some.injEq, forall_eq']
      exact (fieldReads_iff key presence shape v).symm
    · simp [hk, Ne.symm hk, ih]

/-- An object with distinct keys is a record just if every member that is found is read as a field,
and no required one is missing. -/
theorem mismatch?_record_eq_none_iff {members : List (String × Value)}
    (hmembers : DistinctKeys members) :
    (record name fields).mismatch? (.object members) = none ↔
      (∀ key v, members.lookup key = some v →
        ∀ field, fields.find? (·.1 = key) = some field → FieldReads field v) ∧
      ∀ field ∈ fields, field.2.1 = .required → (members.lookup field.1).isSome := by
  unfold mismatch?
  rw [Option.or_eq_none_iff, missing?_eq_none_iff, List.findSome?_eq_none_iff]
  simp only [memberMismatch?_eq_none_iff_find?, lookup_eq_some_iff hmembers, Prod.forall]

theorem mismatch?_table_object_eq_none_iff {entry : Shape} {members : List (String × Value)}
    (hmembers : DistinctKeys members) :
    (table entry).mismatch? (.object members) = none ↔
      ∀ key v, members.lookup key = some v → entry.mismatch? v = none := by
  rw [mismatch?, List.findSome?_eq_none_iff]
  simp only [lookup_eq_some_iff hmembers, Prod.forall]

/-- An object is a record if another one is, has the same fields, and what is read of its fields is
read of the other's. -/
theorem mismatch?_record_of_members {ms ns : List (String × Value)} (hms : DistinctKeys ms)
    (hns : DistinctKeys ns)
    (hfound : ∀ field ∈ fields, (ms.lookup field.1).isSome = (ns.lookup field.1).isSome)
    (hread : ∀ field v w, fields.find? (·.1 = field.1) = some field →
      ms.lookup field.1 = some v → ns.lookup field.1 = some w → FieldReads field v →
        FieldReads field w)
    (h : (record name fields).mismatch? (.object ms) = none) :
    (record name fields).mismatch? (.object ns) = none := by
  rw [mismatch?_record_eq_none_iff hms] at h
  rw [mismatch?_record_eq_none_iff hns]
  obtain ⟨hmembers, hrequired⟩ := h
  constructor
  · intro key w hw field hfield
    obtain rfl : field.1 = key := by simpa using List.find?_some hfield
    have hsome : (ms.lookup field.1).isSome := by
      rw [hfound field (List.mem_of_find?_eq_some hfield), hw]
      rfl
    obtain ⟨v, hv⟩ := Option.isSome_iff_exists.mp hsome
    exact hread field v w hfield hv hw (hmembers _ v hv field hfield)
  · intro field hfield hpresence
    rw [← hfound field hfield]
    exact hrequired field hfield hpresence

theorem mismatch?_table_of_members {entry : Shape} {ms ns : List (String × Value)}
    (hms : DistinctKeys ms) (hns : DistinctKeys ns)
    (hfound : ∀ key, (ms.lookup key).isSome = (ns.lookup key).isSome)
    (hread : ∀ key v w, ms.lookup key = some v → ns.lookup key = some w →
      entry.mismatch? v = none → entry.mismatch? w = none)
    (h : (table entry).mismatch? (.object ms) = none) :
    (table entry).mismatch? (.object ns) = none := by
  rw [mismatch?_table_object_eq_none_iff hms] at h
  rw [mismatch?_table_object_eq_none_iff hns]
  intro key w hw
  have hsome : (ms.lookup key).isSome := by
    rw [hfound key, hw]
    rfl
  obtain ⟨v, hv⟩ := Option.isSome_iff_exists.mp hsome
  exact hread key v w hv hw (h key v hv)

theorem mismatch?_record_of_items {vs ws : List Value} (hlength : vs.length = ws.length)
    (hread : ∀ (i : Nat) (field : String × Presence × Shape) (v w : Value),
      fields[i]? = some field → vs[i]? = some v → ws[i]? = some w → FieldReads field v →
        FieldReads field w)
    (h : (record name fields).mismatch? (.array vs) = none) :
    (record name fields).mismatch? (.array ws) = none := by
  rw [mismatch?_array_eq_none_iff] at h ⊢
  obtain ⟨hmany, hdefaulted, hitems⟩ := h
  rw [← hlength]
  refine ⟨hmany, hdefaulted, fun read hmem => ?_⟩
  obtain ⟨i, hi⟩ := List.mem_iff_getElem?.mp hmem
  obtain ⟨hfield, hw⟩ := List.getElem?_zip_eq_some.mp hi
  obtain ⟨hlt, -⟩ := List.getElem?_eq_some_iff.mp hw
  have hv : vs[i]? = some vs[i] := List.getElem?_eq_getElem (hlength ▸ hlt)
  have hpair : (read.1, vs[i]) ∈ fields.zip vs :=
    List.mem_iff_getElem?.mpr ⟨i, List.getElem?_zip_eq_some.mpr ⟨hfield, hv⟩⟩
  exact hread i read.1 vs[i] read.2 hfield hv hw (hitems _ hpair)

theorem find?_eq_getElem?_of_idxOf? {i : Nat} (h : (fields.map (·.1)).idxOf? key = some i) :
    fields.find? (·.1 = key) = fields[i]? := by
  obtain ⟨hi, hkey, hfirst⟩ := List.idxOf?_eq_some_iff.mp h
  rw [List.length_map] at hi
  rw [List.getElem?_eq_getElem hi, List.find?_eq_some_iff_getElem]
  rw [List.getElem_map] at hkey
  refine ⟨by simpa using hkey, i, hi, rfl, fun j hj => ?_⟩
  simpa using hfirst j hj

end Json.Shape

namespace Place.Agree

variable {p : Place} {s t : Shape} {v w : Value} {key : String} {ms ns : List (String × Value)}

/-! ## Shapes -/

theorem fieldReads {field : String × Json.Presence × Shape} (hagree : Agree p v w)
    (hmismatch : field.2.2.mismatch? v = none → field.2.2.mismatch? w = none)
    (h : Shape.FieldReads field v) : Shape.FieldReads field w :=
  h.imp (And.imp_right hagree.eq_null_iff.mp) hmismatch

theorem mismatch?_eq_none (h : Agree (.shape s) v w) (hv : s.mismatch? v = none) :
    s.mismatch? w = none := by
  -- a field stands at a place of its own, so the induction is for all shapes
  generalize hp : Place.shape s = p at h
  induction h generalizing s with
  | refl => exact hv
  | @object p ms ns hms hns _ hfound hread ih =>
    subst hp
    cases s with
    | text | number | flag => simp [Shape.mismatch?] at hv
    | anything => exact Shape.mismatch?_anything _
    | record name fields =>
      refine Shape.mismatch?_record_of_members hms hns ?_ ?_ hv
      · intro field hfield
        obtain ⟨t, ht⟩ := Shape.exists_memberShape? hfield
        exact hfound field.1 _ (.field ht)
      · intro field v w hfield hv hw hreads
        have hplace : (Place.shape (.record name fields)).Reads ms field.1 (.shape field.2.2) :=
          .field (Shape.memberShape?_eq_some_iff.mpr ⟨field, hfield, rfl⟩)
        exact (hread _ _ v w hplace hv hw).fieldReads
          (fun h => ih _ _ v w hplace hv hw h rfl) hreads
    | table entry =>
      refine Shape.mismatch?_table_of_members hms hns ?_ ?_ hv
      · exact fun key => hfound key _ (.field rfl)
      · exact fun key v w hv hw h => ih key _ v w (.field rfl) hv hw h rfl
  | @array p vs ws hlength hread ih =>
    subst hp
    cases s with
    | text | number | flag | table => simp [Shape.mismatch?] at hv
    | anything => exact Shape.mismatch?_anything _
    | record name fields =>
      refine Shape.mismatch?_record_of_items hlength (fun i field v w hfield hv hw hreads => ?_) hv
      have hplace : (Place.shape (.record name fields)).ReadsItem i (.shape field.2.2) :=
        .field (by simp [Shape.itemShape?, hfield])
      exact (hread i _ v w hplace hv hw).fieldReads
        (fun h => ih i _ v w hplace hv hw h rfl) hreads

theorem mismatch?_eq_none_iff (h : Agree (.shape s) v w) :
    s.mismatch? v = none ↔ s.mismatch? w = none :=
  ⟨h.mismatch?_eq_none, h.symm.mismatch?_eq_none⟩

/-- Of two bad fields, the first one is reported. -/
example :
    Frame.shape.mismatch? (.object [("width", .string "wide"), ("height", .string "tall")]) =
        some (.type (.string "wide") "f64") ∧
      Frame.shape.mismatch? (.object [("height", .string "tall"), ("width", .string "wide")]) =
        some (.type (.string "tall") "f64") :=
  ⟨rfl, rfl⟩

theorem eq_of_anything (h : Agree (.shape .anything) v w) : v = w := by
  generalize hp : Place.shape .anything = p at h
  induction h with
  | refl => rfl
  | object hms _ horder _ _ ih =>
    subst hp
    have hmap := Json.map_eq_of_lookup hms (horder trivial) fun key v w hv hw =>
      congrArg id (ih key _ v w (.field rfl) hv hw rfl)
    simpa using hmap
  | array hlength _ ih =>
    subst hp
    rw [Value.array.injEq]
    refine List.ext_getElem hlength fun i hi hi' => ?_
    exact ih i _ _ _ (.field rfl) (List.getElem?_eq_getElem hi) (List.getElem?_eq_getElem hi') rfl

/-! ## Fields -/

theorem field? (h : Agree (.shape s) v w) (key : String) (hkey : s.memberShape? key = some t) :
    Option.Rel (Agree (.shape t)) (s.field? key v) (s.field? key w) := by
  cases h with
  | refl => exact rel_refl _ _
  | object hms hns horder hfound hread =>
    have h : Agree (.shape s) _ _ := .object hms hns horder hfound hread
    exact h.member? (.field hkey)
  | @array _ vs ws hlength hread =>
    have h : Agree (.shape s) (.array vs) (.array ws) := .array hlength hread
    cases s with
    | text | number | flag | anything | table => exact .none
    | record name fields =>
      simp only [Shape.field?]
      cases hidx : (fields.map (·.1)).idxOf? key with
      | none => exact .none
      | some i =>
        obtain ⟨field, hfield, rfl⟩ := Shape.memberShape?_eq_some_iff.mp hkey
        rw [Shape.find?_eq_getElem?_of_idxOf? hidx] at hfield
        exact h.item (.field (by simp [Shape.itemShape?, hfield]))

theorem bind_eq_of_rel {β : Type} {f : Value → Option β} {found found' : Option Value}
    (h : Option.Rel (Agree p) found found') (hf : ∀ v w, Agree p v w → f v = f w) :
    found.bind f = found'.bind f := by
  cases h with
  | none => rfl
  | some h => exact hf _ _ h

theorem textField_eq (h : Agree (.shape s) v w) (hkey : (s.memberShape? key).isSome) :
    textField s key v = textField s key w := by
  obtain ⟨t, ht⟩ := Option.isSome_iff_exists.mp hkey
  exact bind_eq_of_rel (h.field? key ht) fun _ _ h => h.string?

theorem numberField_eq (h : Agree (.shape s) v w) (hkey : (s.memberShape? key).isSome) :
    numberField s key v = numberField s key w := by
  obtain ⟨t, ht⟩ := Option.isSome_iff_exists.mp hkey
  exact bind_eq_of_rel (h.field? key ht) fun _ _ h => h.number?

/-! ## Records -/

theorem rgb_eq (h : Agree (.shape Rgb.shape) v w) : Rgb.ofValue? v = Rgb.ofValue? w := by
  unfold Rgb.ofValue?
  rw [h.numberField_eq (by decide), h.numberField_eq (by decide), h.numberField_eq (by decide)]

theorem fill_eq (h : Agree (.shape Fill.shape) v w) : Fill.ofValue v = Fill.ofValue w := by
  have hvisible := bind_eq_of_rel (h.field? "visible" rfl) fun _ _ h => h.flag?
  have hcolor := bind_eq_of_rel (h.field? "color" rfl) fun _ _ h => h.rgb_eq
  unfold Fill.ofValue
  rw [h.textField_eq (by decide), hvisible, hcolor]

theorem fills_eq {found found' : Option Value} (h : Option.Rel (Agree .fills) found found') :
    Fill.listOf found = Fill.listOf found' := by
  cases h with
  | none => rfl
  | @some v w h =>
    cases v with
    | array vs =>
      obtain ⟨ws, rfl⟩ : ∃ ws, w = .array ws := by cases h <;> exact ⟨_, rfl⟩
      refine Emitter.filterMap_eq_of_forall₂ (h.items .fill) fun v w h => ?_
      simp only [Option.isNone_iff_eq_none, h.mismatch?_eq_none_iff, h.fill_eq]
    | null | bool | integer | float | string | object => cases h <;> rfl

theorem lineHeight_eq (h : Agree (.shape LineHeight.shape) v w) :
    LineHeight.ofValue v = LineHeight.ofValue w := by
  unfold LineHeight.ofValue
  rw [h.textField_eq (by decide), h.numberField_eq (by decide)]

theorem text_eq (h : Agree (.shape TextRun.shape) v w) (visible : Bool) :
    TextRun.ofValue visible v = TextRun.ofValue visible w := by
  have hheight := h.field? "lineHeight" rfl
  unfold TextRun.ofValue
  rw [h.textField_eq (by decide), h.textField_eq (by decide), h.numberField_eq (by decide)]
  generalize TextRun.shape.field? "lineHeight" v = found at hheight ⊢
  generalize TextRun.shape.field? "lineHeight" w = found' at hheight ⊢
  cases hheight with
  | none => rfl
  | @some a b h =>
    have hvalue : LineHeight.ofValue a = LineHeight.ofValue b := h.lineHeight_eq
    cases h with
    | refl => rfl
    | object => simp only [hvalue]
    | array => simp only [hvalue]

theorem frame_eq (h : Agree (.shape Frame.shape) v w)
    (hfills : Option.Rel (Agree .fills) (v.member? "fills") (w.member? "fills")) (visible : Bool) :
    Frame.ofValue visible v = Frame.ofValue visible w := by
  unfold Frame.ofValue
  rw [fills_eq hfills]
  simp (disch := decide) only [h.textField_eq, h.numberField_eq]

theorem property_eq (h : Agree (.shape Property.shape) v w) :
    Property.ofValue v = Property.ofValue w := by
  have hvalue := bind_eq_of_rel (f := some) (h.field? "value" rfl)
    fun _ _ h => congrArg some h.eq_of_anything
  rw [Option.bind_fun_some, Option.bind_fun_some] at hvalue
  unfold Property.ofValue
  rw [h.textField_eq (by decide), hvalue]

theorem bag_eq (h : Option.Rel (Agree (.shape (.table Property.shape)))
    (v.member? "componentProperties") (w.member? "componentProperties")) :
    Property.bagOf v = Property.bagOf w := by
  unfold Property.bagOf
  generalize v.member? "componentProperties" = found at h ⊢
  generalize w.member? "componentProperties" = found' at h ⊢
  cases h with
  | none => rfl
  | some h =>
    cases h with
    | refl => rfl
    | array => rfl
    | object hms _ horder _ hread =>
      exact Json.map_eq_of_lookup hms (horder trivial) fun key v w hv hw =>
        (hread key _ v w (.field rfl) hv hw).property_eq

/-! ## Nodes -/

theorem nodeName_eq (h : Agree .node (.object ms) (.object ns)) :
    nodeName (.object ms) = nodeName (.object ns) :=
  congrArg (·.getD "") (bind_eq_of_rel (h.member? .name) fun _ _ h => h.string?)

theorem kindToken?_eq (h : Agree .node (.object ms) (.object ns)) :
    kindToken? (.object ms) = kindToken? (.object ns) :=
  bind_eq_of_rel (h.member? .type) fun _ _ h => h.string?

theorem nodeVisible?_eq (h : Agree .node (.object ms) (.object ns)) :
    nodeVisible? (.object ms) = nodeVisible? (.object ns) := by
  have hvisible := h.member? .visible
  unfold nodeVisible?
  generalize (Value.object ms).member? "visible" = found at hvisible ⊢
  generalize (Value.object ns).member? "visible" = found' at hvisible ⊢
  cases hvisible with
  | none => rfl
  | some h => cases h <;> rfl

/-- The children of containers agree one by one, or neither has a list of them. -/
theorem childValues?_rel
    (h : Option.Rel (Agree .children) (v.member? "children") (w.member? "children")) :
    Option.Rel (List.Forall₂ (Agree .node)) (childValues? v) (childValues? w) := by
  unfold childValues?
  generalize v.member? "children" = found at h ⊢
  generalize w.member? "children" = found' at h ⊢
  cases h with
  | none => exact .some .nil
  | @some a b h =>
    cases a with
    | null =>
      obtain rfl := h.eq_null_iff.mp rfl
      exact .some .nil
    | array vs =>
      obtain ⟨ws, rfl⟩ : ∃ ws, b = .array ws := by cases h <;> exact ⟨_, rfl⟩
      exact .some (h.items .child)
    | bool | integer | float | string | object => cases h <;> exact .none

theorem childrenFault?_eq
    (h : Option.Rel (Agree .children) (v.member? "children") (w.member? "children")) :
    childrenFault? v = childrenFault? w := by
  have hvalues := childValues?_rel h
  unfold childrenFault?
  generalize childValues? v = found at hvalues ⊢
  generalize childValues? w = found' at hvalues ⊢
  cases hvalues <;> rfl

theorem childItems_rel
    (h : Option.Rel (Agree .children) (v.member? "children") (w.member? "children")) :
    List.Forall₂ (Agree .node) (childItems v) (childItems w) := by
  have hvalues := childValues?_rel h
  unfold childItems
  generalize childValues? v = found at hvalues ⊢
  generalize childValues? w = found' at hvalues ⊢
  cases hvalues with
  | none => exact .nil
  | some hitems => exact hitems

section

variable {token : String} {kind : NodeKind} (h : Agree .node (.object ms) (.object ns))
  (htype : HasToken ms token) (hkind : token ∈ kind.tokens)

include h htype hkind

theorem record (hs : s ∈ kind.shapes) (horder : ¬ (Place.shape s).IsOrdered) :
    Agree (.shape s) (.object ms) (.object ns) := by
  apply h.mono horder
  intro key q hread
  cases hread with
  | field hfield => exact .record htype hkind hs hfield

theorem record_frame (hcontainer : kind ≠ .text) :
    Agree (.shape Frame.shape) (.object ms) (.object ns) := by
  refine h.record htype hkind ?_ id
  cases kind with
  | text => exact absurd rfl hcontainer
  | frame | component => exact .head _

theorem container_eq (hcontainer : kind ≠ .text) (visible : Bool) :
    Frame.ofValue visible (.object ms) = Frame.ofValue visible (.object ns) :=
  (h.record_frame htype hkind hcontainer).frame_eq (h.member? (.fills htype hkind hcontainer)) _

end

end Place.Agree

end SceneMarkup
