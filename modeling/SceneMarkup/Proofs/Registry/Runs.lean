import Mathlib.Data.Finset.Card
import SceneMarkup.Proofs.Registry.Loading

/-!
# Runs of registrations

A run of calls, checked ones and unchecked ones mixed, leaves what registering the accepted components
one after the other does (`run_eq_foldl`): of each name the last one counts
(`get?_foldl_register`). Two registries that find the same are the same list in some order
(`perm_of_get?`), and listed by name they are equal (`sorted_eq_of_get?`).
-/

namespace SceneMarkup.Registry

/-- A call that changes a registry. -/
inductive Call where
  | register (d : Descriptor)
  | tryRegister (d : Descriptor)

namespace Call

def descriptor : Call → Descriptor
  | register d | tryRegister d => d

def isChecked : Call → Bool
  | register _ => false
  | tryRegister _ => true

/-- What the call answers, and the registry after it. -/
def perform (r : Registry) : Call → Except RegistryError Unit × Registry
  | register d => (.ok (), r.register d)
  | tryRegister d =>
    match r.tryRegister d with
    | .ok r' => (.ok (), r')
    | .error e => (.error e, r)

/-- The component of a call that is accepted: an unchecked call is, a checked one if the name is that
of a component. -/
def accepted? : Call → Option Descriptor
  | register d => some d
  | tryRegister d => if IsName d.name then some d else none

variable {r : Registry} {c : Call}

theorem perform_of_accepted {d : Descriptor} (h : c.accepted? = some d) :
    c.perform r = (.ok (), r.register d) := by
  cases c with
  | register x =>
    cases h
    rfl
  | tryRegister x =>
    obtain ⟨hname, rfl⟩ : IsName x.name ∧ x = d := by simpa [accepted?] using h
    rw [perform, tryRegister_eq_ok_iff.mpr ⟨hname, rfl⟩]

theorem perform_of_refused (h : c.accepted? = none) :
    c.perform r = (.error (.invalidName c.descriptor.name), r) := by
  cases c with
  | register x => cases h
  | tryRegister x =>
    have hname : ¬ IsName x.name := by simpa [accepted?] using h
    rw [perform, tryRegister_eq_error_iff.mpr ⟨hname, rfl⟩]
    rfl

theorem answer_eq (c : Call) (r r' : Registry) : (c.perform r).1 = (c.perform r').1 := by
  cases h : c.accepted? with
  | none => rw [perform_of_refused h, perform_of_refused h]
  | some d => rw [perform_of_accepted h, perform_of_accepted h]

theorem perform_of_error {e : RegistryError} (h : (c.perform r).1 = .error e) :
    (c.perform r).2 = r ∧ e = .invalidName c.descriptor.name := by
  cases hc : c.accepted? with
  | none =>
    rw [perform_of_refused hc] at h ⊢
    exact ⟨rfl, (Except.error.inj h).symm⟩
  | some d =>
    rw [perform_of_accepted hc] at h
    cases h

theorem descriptor_of_accepted {d : Descriptor} (h : c.accepted? = some d) : c.descriptor = d := by
  cases c with
  | register x =>
    cases h
    rfl
  | tryRegister x => exact Option.some.inj (Option.ite_none_right_eq_some.mp h).2

end Call

def run (r : Registry) (calls : List Call) : Registry :=
  calls.foldl (fun r c => (c.perform r).2) r

def accepted (calls : List Call) : List Descriptor := calls.filterMap Call.accepted?

variable {r r' : Registry} {ds : List Descriptor} {calls : List Call} {name : String}

/-- A run registers what is accepted. -/
theorem run_eq_foldl (r : Registry) (calls : List Call) :
    r.run calls = (accepted calls).foldl register r := by
  induction calls generalizing r with
  | nil => rfl
  | cons c rest ih =>
    rw [run, List.foldl_cons, ← run, ih]
    cases h : c.accepted? with
    | none =>
      have hrest : accepted (c :: rest) = accepted rest := List.filterMap_cons_none h
      rw [Call.perform_of_refused h, hrest]
    | some d =>
      have hrest : accepted (c :: rest) = d :: accepted rest := List.filterMap_cons_some h
      rw [Call.perform_of_accepted h, hrest, List.foldl_cons]

theorem get?_foldl_register (r : Registry) (ds : List Descriptor) (name : String) :
    (ds.foldl register r).get? name =
      ((ds.filter (·.name = name)).getLast?).or (r.get? name) := by
  induction ds generalizing r with
  | nil => rfl
  | cons d rest ih =>
    rw [List.foldl_cons, ih, get?_register, List.filter_cons]
    by_cases h : d.name = name
    · -- the first one counts if there is no other one of its name
      rw [if_pos h, if_pos (by simpa using h), List.getLast?_cons]
      cases (rest.filter (·.name = name)).getLast? <;> rfl
    · rw [if_neg h, if_neg (by simpa using h)]

theorem hasNames_components (r : Registry) : r.HasNames (r.components.map (·.name)) := by
  intro name
  rw [contains, Option.isSome_iff_exists, List.mem_map]
  simp only [get?_eq_some_iff]

theorem size_eq_card {names : List String} (h : r.HasNames names) :
    r.size = names.toFinset.card := by
  have hnames : names.toFinset = (r.components.map (·.name)).toFinset := by
    ext name
    rw [List.mem_toFinset, List.mem_toFinset, ← h name, hasNames_components r]
  rw [hnames, List.toFinset_card_of_nodup r.distinct, List.length_map, size]

/-! ## Registries that find the same -/

theorem perm_of_get? (h : ∀ name, r.get? name = r'.get? name) :
    r.components.Perm r'.components := by
  rw [List.perm_ext_iff_of_nodup r.distinct.of_map r'.distinct.of_map]
  intro d
  have hmem (r : Registry) : d ∈ r.components ↔ r.get? d.name = some d := by
    rw [get?_eq_some_iff, and_iff_left rfl]
  rw [hmem r, hmem r', h]

theorem sorted_eq_of_get? (h : ∀ name, r.get? name = r'.get? name) : r.sorted = r'.sorted := by
  have hperm := perm_of_get? h
  have hsorted (r : Registry) : r.sorted.Pairwise fun a b => a.name ≤ b.name := by
    have hpairwise : r.sorted.Pairwise fun a b => decide (a.name ≤ b.name) = true :=
      List.pairwise_mergeSort (by simpa using fun a b c => String.le_trans)
        (by simpa using fun a b => String.le_total _ _) r.components
    exact hpairwise.imp of_decide_eq_true
  refine List.Perm.eq_of_pairwise ?_ (hsorted r) (hsorted r')
    ((List.mergeSort_perm _ _).trans (hperm.trans (List.mergeSort_perm _ _).symm))
  intro a b ha hb hab hba
  have hmem : ∀ {x : Descriptor} {r : Registry}, x ∈ r.sorted → x ∈ r.components :=
    fun hx => (List.mergeSort_perm _ _).mem_iff.mp hx
  exact List.inj_on_of_nodup_map r.distinct (hmem ha) (hperm.mem_iff.mpr (hmem hb))
    (String.le_antisymm hab hba)

theorem get?_run_swap (r : Registry) (before after : List Call) {c c' : Call}
    (h : c.descriptor.name ≠ c'.descriptor.name) (name : String) :
    (r.run (before ++ c' :: c :: after)).get? name =
      (r.run (before ++ c :: c' :: after)).get? name := by
  simp only [run_eq_foldl, get?_foldl_register]
  congr 2
  simp only [accepted, List.filterMap_append, List.filterMap_cons, List.filter_append]
  congr 1
  cases hc : c.accepted? with
  | none => cases c'.accepted? <;> rfl
  | some d =>
    cases hc' : c'.accepted? with
    | none => rfl
    | some d' =>
      -- at most one of the two has the name
      rw [Call.descriptor_of_accepted hc, Call.descriptor_of_accepted hc'] at h
      simp only [List.filter_cons]
      by_cases hd : d.name = name
      · have hd' : d'.name ≠ name := fun heq => h (hd.trans heq.symm)
        simp [hd, hd']
      · simp [hd]

theorem Checked.perform (hr : r.Checked) {c : Call} (hc : c.isChecked = true) :
    (c.perform r).2.Checked := by
  cases c with
  | register d => cases hc
  | tryRegister d =>
    rw [Call.perform]
    split
    · rename_i h
      exact hr.registered h
    · exact hr

theorem Checked.run (hr : r.Checked) (hcalls : ∀ c ∈ calls, c.isChecked = true) :
    (r.run calls).Checked := by
  induction calls generalizing r with
  | nil => exact hr
  | cons c rest ih =>
    obtain ⟨hc, hrest⟩ := List.forall_mem_cons.mp hcalls
    exact ih (hr.perform hc) hrest

/-- **A registry is a map in which the last write counts**, after any run of calls. A call that is
refused changes nothing. Every component is found under its own name and no other; under a name, the
last accepted component of that name is found, else what was there before the run; there are no names
but those that were there and those accepted, and as many components as names. Adjacent calls for
different names may change places, and what a call answers does not depend on the others. If a
checked registry is only filled by checked calls, all its names are valid. -/
theorem run_lastWriteCounts (r : Registry) (calls : List Call) :
    (∀ before c after e, calls = before ++ c :: after → (c.perform (r.run before)).1 = .error e →
      r.run (before ++ [c]) = r.run before ∧ e = .invalidName c.descriptor.name) ∧
    (∀ d ∈ (r.run calls).components, (r.run calls).get? d.name = some d) ∧
    (∀ name d, (r.run calls).get? name = some d → d.name = name) ∧
    (∀ name, (r.run calls).get? name =
      ((accepted calls).filter (·.name = name)).getLast?.or (r.get? name)) ∧
    (∀ name, (r.run calls).contains name = true ↔
      name ∈ (accepted calls).map (·.name) ∨ r.contains name = true) ∧
    (r.run calls).size =
      (r.components.map (·.name) ++ (accepted calls).map (·.name)).toFinset.card ∧
    (∀ before c c' after, calls = before ++ c :: c' :: after →
      c.descriptor.name ≠ c'.descriptor.name →
        (∀ name, (r.run (before ++ c' :: c :: after)).get? name = (r.run calls).get? name) ∧
          (r.run (before ++ c' :: c :: after)).sorted = (r.run calls).sorted) ∧
    (∀ (c : Call) (s s' : Registry), (c.perform s).1 = (c.perform s').1) ∧
    (r.Checked → (∀ c ∈ calls, c.isChecked = true) →
      ∀ name, (r.run calls).contains name = true → IsName name) := by
  refine ⟨?_, ?_, ?_, ?_, ?_, ?_, ?_, Call.answer_eq, ?_⟩
  · rintro before c after e - herror
    obtain ⟨hsame, he⟩ := Call.perform_of_error herror
    refine ⟨?_, he⟩
    rw [run, List.foldl_append]
    exact hsame
  · intro d hd
    exact (get?_eq_some_iff _ _ _).mpr ⟨hd, rfl⟩
  · intro name d hd
    exact ((get?_eq_some_iff _ _ _).mp hd).2
  · intro name
    rw [run_eq_foldl, get?_foldl_register]
  · intro name
    rw [run_eq_foldl, contains_foldl_register]
  · rw [run_eq_foldl]
    exact size_eq_card ((hasNames_components r).registered (accepted calls))
  · rintro before c c' after rfl hne
    have hsame := get?_run_swap r before after hne
    exact ⟨hsame, sorted_eq_of_get? hsame⟩
  · intro hr hcalls name hname
    exact isComponentName_iff.mp ((hr.run hcalls).isComponentName hname)

/-- On a document with one component: the component is replaced, a name that none can have is
refused, and another component comes in. -/
theorem run_lastWriteCounts_replaced :
    ∃ r, ofText "\x7b\"components\":[[\"A\"]]\x7d" = .ok r ∧
      let calls := [Call.tryRegister ⟨"A", [⟨"x", .any, none⟩]⟩, .tryRegister ⟨"b c", []⟩,
        .tryRegister ⟨"B", []⟩]
      (r.run calls).get? "A" = some ⟨"A", [⟨"x", .any, none⟩]⟩ ∧ (r.run calls).size = 2 ∧
        r.run [.tryRegister ⟨"A", [⟨"x", .any, none⟩]⟩, .tryRegister ⟨"b c", []⟩] =
          r.run [.tryRegister ⟨"A", [⟨"x", .any, none⟩]⟩] ∧
        (r.run [.tryRegister ⟨"A", [⟨"x", .any, none⟩]⟩, .tryRegister ⟨"B", []⟩,
          .tryRegister ⟨"b c", []⟩]).sorted = (r.run calls).sorted ∧
        ∀ name, (r.run calls).contains name = true → IsName name := by
  have htext : ofText "\x7b\"components\":[[\"A\"]]\x7d" = .ok (register .empty ⟨"A", []⟩) := rfl
  refine ⟨_, htext, ?_⟩
  intro calls
  obtain ⟨hrefused, -, -, hget, -, hsize, hswap, -, hnames⟩ :=
    run_lastWriteCounts (register .empty ⟨"A", []⟩) calls
  refine ⟨?_, ?_, ?_, ?_, hnames (.document htext) (by decide)⟩
  · rw [hget]
    rfl
  · rw [hsize]
    decide
  · exact (hrefused [_] _ [_] _ rfl rfl).1
  · exact (hswap [_] _ _ [] rfl (by decide)).2

end SceneMarkup.Registry
