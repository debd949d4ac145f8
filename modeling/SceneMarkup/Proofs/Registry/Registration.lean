import SceneMarkup.Proofs.Outcomes
import SceneMarkup.Registry.Basic

/-!
# The names of a registry

A registry contains the names that were registered in it (`contains_foldl_register`), whatever the
descriptors hold beside their names and whichever came first. One is filled from a list if the names
of the list are distinct and can be those of instances (`addAll_eq_ok_iff`).
-/

namespace SceneMarkup.Registry

def SameNames (r r' : Registry) : Prop := ∀ name, r.contains name = r'.contains name

theorem contains_register (r : Registry) (d : Descriptor) (name : String) :
    (r.register d).contains name = true ↔ d.name = name ∨ r.contains name = true := by
  rw [contains, get?_register]
  by_cases h : d.name = name
  · simp [h]
  · simp [h, contains]

theorem contains_foldl_register (r : Registry) (ds : List Descriptor) (name : String) :
    (ds.foldl register r).contains name = true ↔
      name ∈ ds.map (·.name) ∨ r.contains name = true := by
  induction ds generalizing r with
  | nil => simp
  | cons d rest ih =>
    rw [List.foldl_cons, ih, contains_register, List.map_cons, List.mem_cons, or_assoc,
      or_left_comm, eq_comm]

/-- After registering descriptors of the same names, in any order and any number of times,
registries of the same names are so still. -/
theorem SameNames.registered {r r' : Registry} (h : r.SameNames r') {ds ds' : List Descriptor}
    (hnames : ∀ name, name ∈ ds.map (·.name) ↔ name ∈ ds'.map (·.name)) :
    SameNames (ds.foldl register r) (ds'.foldl register r') := by
  intro name
  rw [Bool.eq_iff_iff, contains_foldl_register, contains_foldl_register, hnames, h name]

def HasNames (r : Registry) (names : List String) : Prop :=
  ∀ name, r.contains name = true ↔ name ∈ names

theorem HasNames.sameNames {r r' : Registry} {names names' : List String} (h : r.HasNames names)
    (h' : r'.HasNames names') (hnames : ∀ name, name ∈ names ↔ name ∈ names') : r.SameNames r' := by
  intro name
  rw [Bool.eq_iff_iff, h name, h' name, hnames]

theorem HasNames.registered {r : Registry} {names : List String} (h : r.HasNames names)
    (ds : List Descriptor) : HasNames (ds.foldl register r) (names ++ ds.map (·.name)) := by
  intro name
  rw [contains_foldl_register, h name, List.mem_append, or_comm]

theorem hasNames_empty : empty.HasNames [] := fun _ => ⟨nofun, nofun⟩

/-! ## Filling a registry -/

theorem add_eq_ok_iff {r r' : Registry} {d : Descriptor} :
    r.add d = .ok r' ↔
      (isComponentName d.name = true ∧ r.contains d.name = false) ∧ r' = r.register d := by
  unfold add tryRegister
  cases r.contains d.name with
  | true => simp
  | false =>
    cases isComponentName d.name with
    | false => simp
    | true => simpa using eq_comm

theorem contains_register_eq_false (r : Registry) (d : Descriptor) (name : String) :
    (r.register d).contains name = false ↔ d.name ≠ name ∧ r.contains name = false := by
  rw [← Bool.not_eq_true, contains_register, not_or, Bool.not_eq_true]

/-- A list is added to a registry if its names are new, distinct and such as instances can have. -/
theorem addAll_eq_ok_iff {r r' : Registry} {ds : List Descriptor} :
    ds.foldlM add r = .ok r' ↔
      (∀ d ∈ ds, isComponentName d.name = true ∧ r.contains d.name = false) ∧
        (ds.map (·.name)).Nodup ∧ r' = ds.foldl register r := by
  induction ds generalizing r with
  | nil => simpa [pure, Except.pure] using eq_comm
  | cons d rest ih =>
    have hcons : (d :: rest).foldlM add r = .ok r' ↔
        (isComponentName d.name = true ∧ r.contains d.name = false) ∧
          rest.foldlM add (r.register d) = .ok r' := by
      rw [List.foldlM_cons]
      constructor
      · intro h
        obtain ⟨next, hadd, hrest⟩ := exists_of_bind_eq_ok h
        obtain ⟨hd, rfl⟩ := add_eq_ok_iff.mp hadd
        exact ⟨hd, hrest⟩
      · rintro ⟨hd, hrest⟩
        rw [add_eq_ok_iff.mpr ⟨hd, rfl⟩]
        exact hrest
    rw [hcons, ih, List.forall_mem_cons, List.map_cons, List.nodup_cons, List.foldl_cons]
    simp only [contains_register_eq_false, List.mem_map, not_exists, not_and]
    constructor
    · rintro ⟨hd, hrest, hnodup, rfl⟩
      exact ⟨⟨hd, fun x hx => ⟨(hrest x hx).1, (hrest x hx).2.2⟩⟩,
        ⟨fun x hx => Ne.symm (hrest x hx).2.1, hnodup⟩, rfl⟩
    · rintro ⟨⟨hd, hrest⟩, ⟨hnew, hnodup⟩, rfl⟩
      exact ⟨hd, fun x hx => ⟨(hrest x hx).1, Ne.symm (hnew x hx), (hrest x hx).2⟩, hnodup, rfl⟩

theorem ofDescriptors_eq_ok_iff {ds : List Descriptor} {r : Registry} :
    ofDescriptors ds = .ok r ↔
      (∀ d ∈ ds, isComponentName d.name = true) ∧ (ds.map (·.name)).Nodup ∧
        r = ds.foldl register empty := by
  rw [ofDescriptors, addAll_eq_ok_iff]
  refine and_congr_left' (forall₂_congr fun d _ => and_iff_left ?_)
  rfl

theorem hasNames_of_ofDescriptors {ds : List Descriptor} {r : Registry}
    (h : ofDescriptors ds = .ok r) : r.HasNames (ds.map (·.name)) := by
  obtain ⟨-, -, rfl⟩ := ofDescriptors_eq_ok_iff.mp h
  exact hasNames_empty.registered ds

theorem exists_ofDescriptors_of_sublist {ds ds' : List Descriptor} (hsub : ds'.Sublist ds)
    {r : Registry} (h : ofDescriptors ds = .ok r) : ∃ r', ofDescriptors ds' = .ok r' := by
  obtain ⟨hvalid, hnodup, -⟩ := ofDescriptors_eq_ok_iff.mp h
  exact ⟨_, ofDescriptors_eq_ok_iff.mpr
    ⟨fun d hd => hvalid d (hsub.subset hd), hnodup.sublist (hsub.map _), rfl⟩⟩

end SceneMarkup.Registry
