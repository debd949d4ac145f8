import Mathlib.Data.List.Nodup
import SceneMarkup.Proofs.Registry.Checked
import SceneMarkup.Proofs.Registry.Names

/-!
# Loading a registry

A list of components is loaded if their names are names of components, and distinct (`Loadable`); the
registry then holds the list (`components_of_ofDescriptors`). Otherwise there is a first entry that
is at fault behind the ones before it (`Fault`), and its fault is the error (`ofText_components`).
-/

namespace SceneMarkup

/-- A fold that fails does so at an item, after those before it have succeeded. -/
theorem foldlM_eq_error_iff {σ α ε : Type} {f : σ → α → Except ε σ} {s : σ} {items : List α}
    {e : ε} :
    items.foldlM f s = .error e ↔
      ∃ before a after t, items = before ++ a :: after ∧ before.foldlM f s = .ok t ∧
        f t a = .error e := by
  induction items generalizing s with
  | nil => simp [pure, Except.pure]
  | cons a rest ih =>
    rw [List.foldlM_cons]
    constructor
    · intro h
      cases ha : f s a with
      | error e' =>
        rw [ha] at h
        cases h
        exact ⟨[], a, rest, s, rfl, rfl, ha⟩
      | ok t =>
        rw [ha] at h
        obtain ⟨before, b, after, u, rfl, hbefore, hb⟩ := ih.mp h
        exact ⟨a :: before, b, after, u, rfl, by rw [List.foldlM_cons, ha]; exact hbefore, hb⟩
    · rintro ⟨before, b, after, t, heq, hbefore, hb⟩
      cases before with
      | nil =>
        cases heq
        cases hbefore
        rw [hb]
        rfl
      | cons c before =>
        cases heq
        rw [List.foldlM_cons] at hbefore
        obtain ⟨u, hu, hbefore⟩ := exists_of_bind_eq_ok hbefore
        rw [hu]
        exact ih.mpr ⟨before, b, after, t, rfl, hbefore, hb⟩

def Loadable (ds : List Descriptor) : Prop :=
  (∀ d ∈ ds, IsName d.name) ∧ (ds.map (·.name)).Nodup

/-- What is wrong with an entry behind others: a name that comes again is said to, whether or not it
is one that a component can have. -/
inductive Fault (before : List Descriptor) (d : Descriptor) : RegistryError → Prop where
  | duplicate (h : d.name ∈ before.map (·.name)) : Fault before d (.duplicateComponent d.name)
  | invalid (hnew : d.name ∉ before.map (·.name)) (h : ¬ IsName d.name) :
    Fault before d (.invalidName d.name)

namespace Registry

variable {r : Registry} {d : Descriptor} {ds : List Descriptor}

theorem exists_ofDescriptors_iff : (∃ r, ofDescriptors ds = .ok r) ↔ Loadable ds := by
  simp only [ofDescriptors_eq_ok_iff, isComponentName_iff, Loadable, exists_and_left,
    exists_eq, and_true]

theorem add_eq_error_iff {before : List Descriptor} {e : RegistryError}
    (h : r.HasNames (before.map (·.name))) : r.add d = .error e ↔ Fault before d e := by
  unfold add
  split
  · rename_i hknown
    have hmem := (h d.name).mp hknown
    constructor
    · rintro ⟨⟩
      exact .duplicate hmem
    · rintro (⟨-⟩ | ⟨hnew, -⟩)
      · rfl
      · exact absurd hmem hnew
  · rename_i hunknown
    have hnew : d.name ∉ before.map (·.name) := fun hmem => hunknown ((h d.name).mpr hmem)
    rw [tryRegister_eq_error_iff]
    constructor
    · rintro ⟨hname, rfl⟩
      exact .invalid hnew hname
    · rintro (⟨hmem⟩ | ⟨-, hname⟩)
      · exact absurd hmem hnew
      · exact ⟨hname, rfl⟩

theorem ofDescriptors_eq_error_iff {e : RegistryError} :
    ofDescriptors ds = .error e ↔
      ∃ before d after, ds = before ++ d :: after ∧ Loadable before ∧ Fault before d e := by
  rw [ofDescriptors, foldlM_eq_error_iff]
  constructor
  · rintro ⟨before, d, after, r, rfl, hbefore, hd⟩
    exact ⟨before, d, after, rfl, exists_ofDescriptors_iff.mp ⟨r, hbefore⟩,
      (add_eq_error_iff (hasNames_of_ofDescriptors hbefore)).mp hd⟩
  · rintro ⟨before, d, after, rfl, hbefore, hd⟩
    obtain ⟨r, hr⟩ := exists_ofDescriptors_iff.mpr hbefore
    exact ⟨before, d, after, r, rfl, hr, (add_eq_error_iff (hasNames_of_ofDescriptors hr)).mpr hd⟩

/-! ## What is loaded -/

theorem putDescriptor_of_new (h : d.name ∉ ds.map (·.name)) : putDescriptor d ds = ds ++ [d] := by
  induction ds with
  | nil => rfl
  | cons x rest ih =>
    obtain ⟨hx, hrest⟩ := List.ne_and_not_mem_of_not_mem_cons h
    rw [putDescriptor, if_neg (Ne.symm hx), ih hrest, List.cons_append]

theorem components_foldl_register
    (h : ((r.components ++ ds).map (·.name)).Nodup) :
    (ds.foldl register r).components = r.components ++ ds := by
  induction ds generalizing r with
  | nil => exact (List.append_nil _).symm
  | cons d rest ih =>
    have hnew : d.name ∉ r.components.map (·.name) := fun hmem => by
      rw [List.map_append, List.map_cons] at h
      exact (List.nodup_append.mp h).2.2 d.name hmem d.name (.head _) rfl
    have hput : (r.register d).components = r.components ++ [d] := putDescriptor_of_new hnew
    rw [List.foldl_cons, ih (by rw [hput, List.append_assoc]; exact h), hput, List.append_assoc]
    rfl

theorem components_of_ofDescriptors (h : ofDescriptors ds = .ok r) : r.components = ds := by
  obtain ⟨-, hnodup, rfl⟩ := ofDescriptors_eq_ok_iff.mp h
  exact components_foldl_register hnodup

theorem find?_eq_some_iff_of_nodup (h : (ds.map (·.name)).Nodup) (name : String) :
    ds.find? (fun x => x.name = name) = some d ↔ d ∈ ds ∧ d.name = name := by
  constructor
  · intro hfind
    exact ⟨List.mem_of_find?_eq_some hfind, by simpa using List.find?_some hfind⟩
  · rintro ⟨hmem, rfl⟩
    obtain ⟨x, hx⟩ : ∃ x, ds.find? (fun x => x.name = d.name) = some x :=
      Option.isSome_iff_exists.mp (List.find?_isSome.mpr ⟨d, hmem, decide_eq_true rfl⟩)
    have hname : x.name = d.name := by simpa using List.find?_some hx
    rw [hx, List.inj_on_of_nodup_map h (List.mem_of_find?_eq_some hx) hmem hname]

theorem get?_eq_some_iff (r : Registry) (name : String) (d : Descriptor) :
    r.get? name = some d ↔ d ∈ r.components ∧ d.name = name :=
  find?_eq_some_iff_of_nodup r.distinct name

/-- **A document is loaded if and only if its names are valid and distinct.** The registry then has
as many components as the document, and finds each under its name with its props; otherwise the
fault of the first entry that has one is the error. -/
theorem ofText_components {text : String} {ds : List Descriptor}
    (h : (Json.Document.ofText text).read readComponents = .ok ds) :
    ((∃ r, ofText text = .ok r) ↔ (∀ d ∈ ds, IsName d.name) ∧ (ds.map (·.name)).Nodup) ∧
    (∀ r, ofText text = .ok r →
      r.size = ds.length ∧ ∀ name d, r.get? name = some d ↔ d ∈ ds ∧ d.name = name) ∧
    ∀ e, ofText text = .error e ↔
      ∃ before d after, ds = before ++ d :: after ∧
        ((∀ x ∈ before, IsName x.name) ∧ (before.map (·.name)).Nodup) ∧ Fault before d e := by
  have hload : ofText text = ofDescriptors ds := by rw [ofText, h]
  rw [hload]
  refine ⟨exists_ofDescriptors_iff, fun r hr => ?_, fun e => ofDescriptors_eq_error_iff⟩
  have hcomponents := components_of_ofDescriptors hr
  refine ⟨by rw [size, hcomponents], fun name d => ?_⟩
  rw [get?_eq_some_iff, hcomponents]

/-- Two components are loaded with their props. Of three, the second one has the name of the first,
which counts before the third one's name that no component can have. -/
theorem ofText_components_triple :
    let pair := "\x7b\"components\":[\x7b\"name\":\"B\",\"props\":[[\"x\"]]\x7d,[\"A\"]]\x7d"
    let triple := "\x7b\"components\":[\x7b\"name\":\"A\"\x7d,[\"A\"],[\"b c\"]]\x7d"
    (∃ r, ofText pair = .ok r ∧ r.size = 2 ∧ r.get? "B" = some ⟨"B", [⟨"x", .any, none⟩]⟩) ∧
      ofText triple = .error (.duplicateComponent "A") := by
  intro pair triple
  have hpair : (Json.Document.ofText pair).read readComponents =
      .ok [⟨"B", [⟨"x", .any, none⟩]⟩, ⟨"A", []⟩] := by
    dsimp only [pair]
    rfl
  have htriple : (Json.Document.ofText triple).read readComponents =
      .ok [⟨"A", []⟩, ⟨"A", []⟩, ⟨"b c", []⟩] := by
    dsimp only [triple]
    rfl
  obtain ⟨hloads, hholds, -⟩ := ofText_components hpair
  obtain ⟨r, hr⟩ := hloads.mpr (by decide)
  obtain ⟨hsize, hget⟩ := hholds r hr
  obtain ⟨-, -, hfails⟩ := ofText_components htriple
  refine ⟨⟨r, hr, hsize, (hget "B" _).mpr ⟨.head _, rfl⟩⟩, (hfails _).mpr ?_⟩
  exact ⟨[⟨"A", []⟩], ⟨"A", []⟩, [⟨"b c", []⟩], rfl, by decide, .duplicate (.head _)⟩

end Registry

end SceneMarkup
