import SceneMarkup.Proofs.CommandLine.Delivery
import SceneMarkup.Proofs.Emit.Opacity
import SceneMarkup.Proofs.Registry.Checked

/-!
# Components of flags

What a run shows is what an emitter shows of its scene, with any registry of the names that the
registry file lists and the flags name (`result_of_hasNames`). So it is the set of these names that
counts: flags that come in another order or more than once, a name that the file lists as well, and a
component that a flag names in place of the file, make no difference (`run_components`).
-/

namespace SceneMarkup.CommandLine

/-! ## Flags among the arguments -/

def componentFlags (names : List String) : List String :=
  names.flatMap fun name => ["--component", name]

namespace Invocation

/-- The invocation with components named before its own. -/
def naming (i : Invocation) (names : List String) : Invocation :=
  { i with components := names ++ i.components }

end Invocation

variable {names : List String} {i : Invocation}

theorem Valued.set_naming (option : Valued) (value : String) (i : Invocation)
    (names : List String) :
    option.set value (i.naming names) = (option.set value i).map (·.naming names) := by
  obtain ⟨input, output, registry, instances, maxDepth, jsx, pretty, components⟩ := i
  cases option with
  | output => unfold set; cases pathOfText value <;> cases output <;> rfl
  | registry => unfold set; cases pathOfText value <;> cases registry <;> rfl
  | instances => unfold set; cases instanceModeOfText? value <;> cases instances <;> rfl
  | maxDepth => unfold set; cases wordOfText? value <;> cases maxDepth <;> rfl
  | component => simp only [set, Invocation.naming, Except.map, List.append_assoc]

theorem Switch.set_naming (switch : Switch) (i : Invocation) (names : List String) :
    switch.set (i.naming names) = (switch.set i).map (·.naming names) := by
  obtain ⟨input, output, registry, instances, maxDepth, jsx, pretty, components⟩ := i
  cases switch with
  | version | help => rfl
  | jsx => cases jsx <;> rfl
  | pretty => cases pretty <;> rfl

theorem setInput_naming (value : String) (i : Invocation) (names : List String) :
    setInput value (i.naming names) = (setInput value i).map (·.naming names) := by
  obtain ⟨input, output, registry, instances, maxDepth, jsx, pretty, components⟩ := i
  unfold setInput
  cases input <;> cases pathOfText value <;> rfl

theorem map_naming_bind {x : Except Stop Invocation} {f : Invocation → Except Stop Invocation}
    (h : ∀ j, f (j.naming names) = (f j).map (·.naming names)) :
    x.map (·.naming names) >>= f = (x >>= f).map (·.naming names) := by
  cases x with
  | error stop => rfl
  | ok j => exact h j

theorem takePositionals_naming (args : List String) (i : Invocation) (names : List String) :
    takePositionals (i.naming names) args = (takePositionals i args).map (·.naming names) := by
  induction args generalizing i with
  | nil => rfl
  | cons value rest ih =>
    rw [takePositionals, takePositionals, setInput_naming]
    exact map_naming_bind ih

/-- Components that were named before arguments are taken stand before those of the arguments. -/
theorem take_naming (args : List String) (i : Invocation) (names : List String) :
    take (i.naming names) args = (take i args).map (·.naming names) := by
  fun_induction take i args with
  | case1 => rfl
  | case2 i arg rest harg =>
    simp only [take, harg]
    exact takePositionals_naming rest i names
  | case3 i arg rest value harg ih =>
    simp only [take, harg, setInput_naming]
    exact map_naming_bind ih
  | case4 i arg rest switch harg ih =>
    simp only [take, harg, Switch.set_naming]
    exact map_naming_bind ih
  | case5 i arg rest option value harg ih =>
    simp only [take, harg, Valued.set_naming]
    exact map_naming_bind ih
  | case6 i arg option harg =>
    simp only [take, harg]
    rfl
  | case7 i arg option harg value rest hvalue ih =>
    simp only [take, harg, hvalue, if_true, Valued.set_naming]
    exact map_naming_bind ih
  | case8 i arg option harg value rest hvalue =>
    simp only [take, harg, hvalue]
    rfl
  | case9 i arg rest harg =>
    simp only [take, harg]
    rfl

theorem isValue_of_isComponentName {name : String} (h : isComponentName name = true) :
    isValue name = true := by
  have hname : normalizeName name = name := by
    simp only [isComponentName, Bool.and_eq_true, decide_eq_true_eq] at h
    exact h.2
  unfold isValue
  split
  · rename_i hdash
    have hmem : '-' ∈ (normalizeName name).toList := by rw [hname, hdash]; exact .head _
    exact absurd (isAlphanum_of_mem_normalizeName hmem) (by decide)
  · rfl

theorem take_componentFlags {names : List String}
    (h : ∀ name ∈ names, isComponentName name = true) (i : Invocation) (args : List String) :
    take i (componentFlags names ++ args) =
      take { i with components := i.components ++ names } args := by
  induction names generalizing i with
  | nil => simp only [componentFlags, List.flatMap_nil, List.nil_append, List.append_nil]
  | cons name rest ih =>
    obtain ⟨hname, hrest⟩ := List.forall_mem_cons.mp h
    have hflag : Argument.ofText "--component" = .valued .component none := rfl
    have hstep : take i ("--component" :: name :: (componentFlags rest ++ args)) =
        take { i with components := i.components ++ [name] } (componentFlags rest ++ args) := by
      simp only [take, hflag, isValue_of_isComponentName hname, if_true]
      rfl
    rw [componentFlags, List.flatMap_cons, ← componentFlags, List.append_assoc]
    refine hstep.trans ?_
    rw [ih hrest, List.append_assoc]
    rfl

theorem ofArguments_componentFlags {names : List String}
    (h : ∀ name ∈ names, isComponentName name = true) (args : List String) :
    Invocation.ofArguments (componentFlags names ++ args) =
      (Invocation.ofArguments args).map (·.naming names) := by
  have hplain : { Invocation.plain with components := Invocation.plain.components ++ names } =
      Invocation.plain.naming names := by
    simp only [Invocation.naming, Invocation.plain, List.nil_append, List.append_nil]
  rw [Invocation.ofArguments, take_componentFlags h, hplain, take_naming]
  rfl

/-! ## Names of the file and of the flags -/

def componentsOfFile (content : FileContent) : Except RegistryError (List Descriptor) :=
  match content.text with
  | .error fault => .error (.unreadable fault)
  | .ok text => ((Json.Document.ofText text).read readComponents).mapError .invalidDocument

/-- The components that the registry file lists; none if there is no such file. -/
def Sources.listed (s : Sources) : Except RegistryError (List Descriptor) :=
  s.registry.elim (.ok []) componentsOfFile

theorem ofFile_eq (content : FileContent) :
    Registry.ofFile content = componentsOfFile content >>= Registry.ofDescriptors := by
  unfold Registry.ofFile componentsOfFile
  cases content.text with
  | error fault => rfl
  | ok text =>
    simp only [Registry.ofText]
    generalize (Json.Document.ofText text).read readComponents = listed
    cases listed <;> rfl

namespace Invocation

variable {s s' : Sources} {ds ds' : List Descriptor} {r r' : Registry} {node : Node} {text : String}

theorem exists_of_loaded (h : i.loaded s = .ok r) :
    ∃ ds, s.listed = .ok ds ∧ Registry.ofDescriptors ds = .ok r := by
  unfold loaded at h
  unfold Sources.listed
  cases hregistry : s.registry with
  | none =>
    simp only [hregistry] at h
    cases h
    exact ⟨[], rfl, rfl⟩
  | some content =>
    simp only [hregistry, Option.elim_some, registryOf, ofFile_eq] at h
    split at h
    · rename_i hfile
      cases h
      exact exists_of_bind_eq_ok hfile
    · cases h

theorem loaded_of_listed (hlisted : s.listed = .ok ds) (h : Registry.ofDescriptors ds = .ok r)
    (i : Invocation) : i.loaded s = .ok r := by
  unfold loaded
  unfold Sources.listed at hlisted
  cases hregistry : s.registry with
  | none =>
    rw [hregistry] at hlisted
    cases hlisted
    cases h
    rfl
  | some content =>
    rw [hregistry, Option.elim_some] at hlisted
    simp only [Option.elim_some, registryOf, ofFile_eq, hlisted, bind, Except.bind, h]

theorem shown_of_sameNames (i : Invocation) (h : r'.SameNames r) (node : Node) :
    i.shown r' node = i.shown r node := by
  rw [shown, shown, Emitter.emit_of_sameNames .standard i.options (fun _ => h)]

theorem hasNames_addComponents (h : r.HasNames names) (added : List String) :
    Registry.HasNames ((added.map (Descriptor.mk · [])).foldl Registry.register r)
      (names ++ added) := by
  have hnames : (added.map (Descriptor.mk · [])).map (·.name) = added := by
    rw [List.map_map]
    exact List.map_id added
  simpa only [hnames] using h.registered (added.map (Descriptor.mk · []))

/-- Invocations that name the same components together with the file give the same markup. -/
theorem result_naming (hinput : s'.input = s.input)
    (hvalid : ∀ name ∈ i.components, isComponentName name = true)
    (hvalid' : ∀ name ∈ names, isComponentName name = true)
    (hlisted : s.listed = .ok ds) (hloaded : Registry.ofDescriptors ds = .ok r)
    (hlisted' : s'.listed = .ok ds') (hloaded' : Registry.ofDescriptors ds' = .ok r')
    (hnames : ∀ name, name ∈ ds'.map (·.name) ++ names ↔ name ∈ ds.map (·.name) ++ i.components) :
    { i with components := names }.result s' = i.result s := by
  have hsame := (hasNames_addComponents (Registry.hasNames_of_ofDescriptors hloaded') names).sameNames
    (hasNames_addComponents (Registry.hasNames_of_ofDescriptors hloaded) i.components) hnames
  have hread : { i with components := names }.inputText s'.input = i.inputText s.input := by
    rw [hinput]
    rfl
  rw [result, result, hread, loaded_of_listed hlisted hloaded, loaded_of_listed hlisted' hloaded']
  refine bind_congr fun text => ?_
  simp only [convert, addComponents_of_valid hvalid, addComponents_of_valid hvalid', bind,
    Except.bind]
  cases readScene text with
  | error f => rfl
  | ok node => exact congrArg Except.ok (i.shown_of_sameNames hsame node)

/-- Every registry of the names of the file and the flags gives the markup. -/
theorem result_of_hasNames (hinput : s.input.text = .ok text) (hnode : Node.ofText text = .ok node)
    (hvalid : ∀ name ∈ i.components, isComponentName name = true)
    (hlisted : s.listed = .ok ds) (hloaded : Registry.ofDescriptors ds = .ok r)
    (hnames : r'.HasNames (ds.map (·.name) ++ i.components)) :
    i.result s = .ok (i.shown r' node) := by
  rw [result_of_steps hinput (loaded_of_listed hlisted hloaded i) hvalid hnode]
  have hsame := hnames.sameNames
    (hasNames_addComponents (Registry.hasNames_of_ofDescriptors hloaded) i.components)
    fun _ => Iff.rfl
  rw [i.shown_of_sameNames hsame]

theorem result_moved {before after : List Descriptor} {moved : Descriptor} {registry : Registry}
    (hinput : s'.input = s.input) (hvalid : ∀ name ∈ i.components, isComponentName name = true)
    (hlisted : s.listed = .ok (before ++ moved :: after))
    (hloaded : Registry.ofDescriptors (before ++ moved :: after) = .ok registry)
    (hlisted' : s'.listed = .ok (before ++ after))
    (hnames : ∀ name, name ∈ names ↔ name = moved.name ∨ name ∈ i.components) :
    { i with components := names }.result s' = i.result s := by
  obtain ⟨registry', hloaded'⟩ := Registry.exists_ofDescriptors_of_sublist
    ((List.sublist_cons_self moved after).append_left before) hloaded
  have hmoved : isComponentName moved.name = true :=
    (Registry.ofDescriptors_eq_ok_iff.mp hloaded).1 moved
      (List.mem_append_right before (.head after))
  have hvalid' : ∀ name ∈ names, isComponentName name = true := by
    intro name hname
    rcases (hnames name).mp hname with rfl | hname
    · exact hmoved
    · exact hvalid name hname
  refine result_naming hinput hvalid hvalid' hlisted hloaded hlisted' hloaded' fun name => ?_
  simp only [List.mem_append, List.map_append, List.map_cons, List.mem_cons, hnames]
  tauto

end Invocation

/-! ## Runs -/

/-- What a run shows to the one who started it. -/
def Outcome.visible (o : Outcome) : Nat × String × String := (o.exit, o.stdout, o.stderr)

variable {args args' : List String} {ds : List Descriptor} {stdin : ByteArray}
  {fs fs' : FileSystem} {text : String}

/-- Of the files of a system, what a run shows depends on their places alone. -/
theorem Invocation.visible_conclude (h : fs'.SamePlaces fs) (i : Invocation)
    (result : Except Failure String) :
    (i.conclude result fs').visible = (i.conclude result fs).visible := by
  cases result with
  | error f => rfl
  | ok markup =>
    unfold conclude delivered
    cases i.output with
    | none => rfl
    | some path =>
      dsimp only
      rw [h.target]
      cases fs.target path with
      | error fault => rfl
      | ok place =>
        dsimp only
        rw [h.specialAt?]
        cases fs.specialAt? place with
        | none => rfl
        | some special => dsimp only; cases special.sink <;> rfl

theorem Delivery.read_eq {path : String} {o o' : Outcome} (hplaces : fs'.SamePlaces fs)
    (h : Delivery fs text (some path) o) (h' : Delivery fs' text (some path) o')
    (hexit : o.exit = 0) : o'.files.read path = o.files.read path := by
  cases h with
  | file hplace hplain _ hread _ _ =>
    obtain ⟨after, rfl, -, hread', -⟩ := h'.exists_of_plain (hplaces.leadsTo hplace)
      ((hplaces.specialAt? _).trans hplain)
    exact hread'.trans hread.symm
  | special hplace hspecial _ =>
    have hspecial' := (hplaces.specialAt? _).trans hspecial
    have hread : fs'.read path = fs.read path :=
      (FileSystem.read_special (hplaces.leadsTo hplace) hspecial').trans
        (FileSystem.read_special hplace hspecial).symm
    cases h' with
    | file hplace' hplain' =>
      rw [hplace'.unique (hplaces.leadsTo hplace), hspecial'] at hplain'
      cases hplain'
    | special => exact hread
    | failed => exact hread
  | failed => cases hexit

theorem exists_markup_of_exit (h : Invocation.ofArguments args = .ok i)
    (hexit : (run args stdin fs).exit = 0) : ∃ out, i.result (i.sources stdin fs) = .ok out := by
  rw [run_of_ofArguments h] at hexit
  cases hresult : i.result (i.sources stdin fs) with
  | ok out => exact ⟨out, rfl⟩
  | error f => rw [hresult] at hexit; cases hexit

theorem run_eq_of_names (h : Invocation.ofArguments args = .ok i)
    (h' : Invocation.ofArguments args' = .ok { i with components := names })
    (hvalid : ∀ name ∈ i.components, isComponentName name = true)
    (hvalid' : ∀ name ∈ names, isComponentName name = true)
    (hnames : ∀ ds, (i.sources stdin fs).listed = .ok ds →
      ∀ name, name ∈ ds.map (·.name) ++ names ↔ name ∈ ds.map (·.name) ++ i.components) :
    run args' stdin fs = run args stdin fs := by
  have hresult : { i with components := names }.result (i.sources stdin fs) =
      i.result (i.sources stdin fs) := by
    cases hload : i.loaded (i.sources stdin fs) with
    | ok r =>
      obtain ⟨ds, hlisted, hloaded⟩ := Invocation.exists_of_loaded hload
      exact Invocation.result_naming rfl hvalid hvalid' hlisted hloaded hlisted hloaded
        (hnames ds hlisted)
    | error f =>
      -- the registry file is the same, so neither of the two comes to its flags
      have hload' : { i with components := names }.loaded (i.sources stdin fs) = .error f := hload
      rw [Invocation.result, Invocation.result, hload, hload']
      rfl
  rw [run_of_ofArguments h, run_of_ofArguments h']
  exact congrArg (i.conclude · fs) hresult

theorem run_componentFlags {names' : List String} (h : Invocation.ofArguments args = .ok i)
    (hvalid : ∀ name ∈ i.components, isComponentName name = true)
    (hflags : ∀ name ∈ names, isComponentName name = true)
    (hsame : ∀ name, name ∈ names' ↔ name ∈ names) (stdin : ByteArray) (fs : FileSystem) :
    run (componentFlags names' ++ args) stdin fs = run (componentFlags names ++ args) stdin fs := by
  have hflags' : ∀ name ∈ names', isComponentName name = true :=
    fun name hname => hflags name ((hsame name).mp hname)
  have hargs {more : List String} (hmore : ∀ name ∈ more, isComponentName name = true) :
      Invocation.ofArguments (componentFlags more ++ args) = .ok (i.naming more) := by
    rw [ofArguments_componentFlags hmore, h]
    rfl
  refine run_eq_of_names (hargs hflags) (hargs hflags')
    (List.forall_mem_append.mpr ⟨hflags, hvalid⟩) (List.forall_mem_append.mpr ⟨hflags', hvalid⟩)
    fun ds _ name => ?_
  simp only [Invocation.naming, List.mem_append, hsame]

end SceneMarkup.CommandLine
