import SceneMarkup.Proofs.CommandLine.Paths
import SceneMarkup.Proofs.CommandLine.Steps

/-!
# What a run leaves behind

A run is its result, which is settled by what it finds (`sources`), and then the delivery of that
result (`run_of_ofArguments`). A text is delivered to one place, which is standard output or where the
output path leads, and every other place is left as it was (`Delivery`, `delivery_delivered`). A run
that fails before leaves everything as it was and reports the first step that failed (`run_outcome`).
-/

namespace SceneMarkup.CommandLine

/-! ## Runs on a world -/

section Bind

variable {α β : Type} {x : ExceptT Failure (StateM World) α}
  {f : α → ExceptT Failure (StateM World) β} {w w' : World}

theorem run_bind_ok {a : α} (h : x.run.run w = (.ok a, w')) :
    (x >>= f).run.run w = (f a).run.run w' := by
  rw [ExceptT.run_bind, StateT.run_bind, h]
  rfl

theorem run_bind_error {e : Failure} (h : x.run.run w = (.error e, w')) :
    (x >>= f).run.run w = (.error e, w') := by
  rw [ExceptT.run_bind, StateT.run_bind, h]
  rfl

end Bind

def Outcome.ofSteps : Except Failure Unit × World → Outcome
  | (.ok (), w) => ⟨0, w.stdout, w.stderr, w.files⟩
  | (.error f, w) => ⟨1, w.stdout, w.stderr ++ f.report, w.files⟩

namespace Invocation

def sources (i : Invocation) (stdin : ByteArray) (fs : FileSystem) : Sources where
  input := i.inputPath?.elim (.ok stdin) fs.read
  registry := i.registry.map fs.read

theorem run_readInput (i : Invocation) (w : World) :
    ∃ left, (i.readInput : ExceptT Failure (StateM World) String).run.run w =
      (i.inputText (i.sources w.stdin w.files).input, { w with stdin := left }) := by
  unfold readInput sources
  cases i.inputPath? with
  | none => exact ⟨.empty, rfl⟩
  | some path => exact ⟨w.stdin, rfl⟩

theorem run_loadRegistry (i : Invocation) (stdin : ByteArray) (w : World) :
    (i.loadRegistry : ExceptT Failure (StateM World) Registry).run.run w =
      (i.loaded (i.sources stdin w.files), w) := by
  unfold loadRegistry loaded sources
  cases i.registry <;> rfl

/-- The steps before the last one only read. -/
theorem run_perform (i : Invocation) (w : World) :
    ∃ left, (i.perform : ExceptT Failure (StateM World) Unit).run.run w =
      match i.result (i.sources w.stdin w.files) with
      | .error f => (.error f, { w with stdin := left })
      | .ok markup =>
        (i.deliver (markup ++ "\n") : ExceptT Failure (StateM World) Unit).run.run
          { w with stdin := left } := by
  obtain ⟨left, hread⟩ := run_readInput i w
  have hload := run_loadRegistry i w.stdin { w with stdin := left }
  refine ⟨left, ?_⟩
  unfold perform result
  cases htext : i.inputText (i.sources w.stdin w.files).input with
  | error f =>
    rw [htext] at hread
    exact run_bind_error hread
  | ok text =>
    rw [htext] at hread
    rw [run_bind_ok hread]
    cases hloaded : i.loaded (i.sources w.stdin w.files) with
    | error f =>
      rw [hloaded] at hload
      exact run_bind_error hload
    | ok loaded =>
      rw [hloaded] at hload
      rw [run_bind_ok hload]
      simp only [bind, Except.bind]
      cases i.convert text loaded <;> rfl

/-! ## Delivery -/

/-- What a run leaves behind that comes to its last step with a text. -/
def delivered (i : Invocation) (text : String) (fs : FileSystem) : Outcome :=
  match i.output with
  | none => ⟨0, text, "", fs⟩
  | some path =>
    match fs.target path with
    | .error fault => ⟨1, "", (writeFailure path fault).report, fs⟩
    | .ok place =>
      match fs.specialAt? place with
      | none => ⟨0, "", "", fs.put place text.toUTF8⟩
      | some special =>
        match special.sink with
        | .nowhere => ⟨0, "", "", fs⟩
        | .standardOutput => ⟨0, text, "", fs⟩
        | .standardError => ⟨0, "", text, fs⟩
        | .refused fault => ⟨1, "", (writeFailure path fault).report, fs⟩

theorem run_deliver_path {i : Invocation} {path : String} (h : i.output = some path) (text : String)
    (w : World) : (i.deliver text : ExceptT Failure (StateM World) Unit).run.run w =
      match w.write path text with
      | .ok after => (.ok (), after)
      | .error fault => (.error (writeFailure path fault), w) := by
  -- the write itself does not fail as a step does, but answers a fault
  have hwrite : (liftM (System.writeFile (m := StateM World) path text) :
      ExceptT Failure (StateM World) (Except FileFault Unit)).run.run w =
      match w.write path text with
      | .ok after => (.ok (.ok ()), after)
      | .error fault => (.ok (.error fault), w) := by
    have hrun : (System.writeFile path text : StateM World (Except FileFault Unit)).run w =
        match w.write path text with
        | .ok after => (.ok (), after)
        | .error fault => (.error fault, w) := rfl
    rw [ExceptT.run_liftM, StateT.run_map, hrun]
    cases w.write path text <;> rfl
  unfold deliver
  simp only [h]
  cases hw : w.write path text with
  | ok after =>
    rw [hw] at hwrite
    exact run_bind_ok hwrite
  | error fault =>
    rw [hw] at hwrite
    exact run_bind_ok hwrite

theorem ofSteps_deliver (i : Invocation) (text : String) (left : ByteArray) (fs : FileSystem) :
    Outcome.ofSteps ((i.deliver text : ExceptT Failure (StateM World) Unit).run.run
      ⟨left, "", "", fs⟩) = i.delivered text fs := by
  unfold delivered
  cases houtput : i.output with
  | none =>
    unfold deliver
    rw [houtput]
    show Outcome.mk 0 ("" ++ text) "" fs = _
    rw [String.empty_append]
  | some path =>
    rw [run_deliver_path houtput, World.write]
    dsimp only
    cases fs.target path with
    | error fault => simp [Outcome.ofSteps, bind, Except.bind]
    | ok place =>
      simp only [bind, Except.bind]
      cases fs.specialAt? place with
      | none => rfl
      | some special => cases hsink : special.sink <;> simp [World.sink, hsink, Outcome.ofSteps]

/-- What a run leaves behind that comes to a result. -/
def conclude (i : Invocation) (result : Except Failure String) (fs : FileSystem) : Outcome :=
  match result with
  | .error f => ⟨1, "", f.report, fs⟩
  | .ok markup => i.delivered (markup ++ "\n") fs

end Invocation

theorem run_of_ofArguments {args : List String} {i : Invocation}
    (h : Invocation.ofArguments args = .ok i) (stdin : ByteArray) (fs : FileSystem) :
    run args stdin fs = i.conclude (i.result (i.sources stdin fs)) fs := by
  have hsteps : run args stdin fs = .ofSteps
      ((i.perform : ExceptT Failure (StateM World) Unit).run.run ⟨stdin, "", "", fs⟩) := by
    unfold run perform
    rw [h]
    simp only [StateT.run_bind]
    generalize (i.perform : ExceptT Failure (StateM World) Unit).run.run ⟨stdin, "", "", fs⟩ = x
    obtain ⟨result, w⟩ := x
    cases result <;> rfl
  obtain ⟨left, hperform⟩ := i.run_perform ⟨stdin, "", "", fs⟩
  rw [hsteps, hperform]
  cases i.result (i.sources stdin fs) with
  | error f => simp [Outcome.ofSteps, Invocation.conclude]
  | ok markup => exact i.ofSteps_deliver (markup ++ "\n") left fs

/-! ## Where a text is -/

/-- What is left behind by a run that has a text to write, given the path that it is written to. -/
inductive Delivery (fs : FileSystem) (text : String) : Option String → Outcome → Prop where
  | standardOutput : Delivery fs text none ⟨0, text, "", fs⟩
  /-- The place that the path leads to holds the text, and every other place what it held. -/
  | file {path : String} {place : List String} {after : FileSystem}
      (hplace : fs.LeadsTo path place) (hplain : fs.specialAt? place = none)
      (hcontent : after.fileAt? place = some text.toUTF8) (hread : after.read path = .ok text.toUTF8)
      (hothers : ∀ other, other ≠ place → after.fileAt? other = fs.fileAt? other)
      (hrest : after = { fs with files := after.files }) :
      Delivery fs text (some path) ⟨0, "", "", after⟩
  /-- The path leads to a file that is no plain one, and two of these show the text. -/
  | special {path : String} {place : List String} {special : SpecialFile} {stdout stderr : String}
      (hplace : fs.LeadsTo path place) (hspecial : fs.specialAt? place = some special)
      (hsink : special.sink = .nowhere ∧ stdout = "" ∧ stderr = "" ∨
        special.sink = .standardOutput ∧ stdout = text ∧ stderr = "" ∨
          special.sink = .standardError ∧ stdout = "" ∧ stderr = text) :
      Delivery fs text (some path) ⟨0, stdout, stderr, fs⟩
  /-- The path leads to no file, or to one that refuses the text, and nothing is written. -/
  | failed {path : String} {fault : FileFault}
      (hfails : (∀ place, ¬ fs.LeadsTo path place) ∨ ∃ place special, fs.LeadsTo path place ∧
        fs.specialAt? place = some special ∧ special.sink = .refused fault) :
      Delivery fs text (some path) ⟨1, "", (Invocation.writeFailure path fault).report, fs⟩

theorem delivery_delivered (i : Invocation) (text : String) (fs : FileSystem) :
    Delivery fs text i.output (i.delivered text fs) := by
  unfold Invocation.delivered
  cases i.output with
  | none => exact .standardOutput
  | some path =>
    dsimp only
    cases htarget : fs.target path with
    | error fault =>
      refine .failed (.inl fun place hplace => ?_)
      rw [FileSystem.target_of_leadsTo hplace] at htarget
      cases htarget
    | ok place =>
      have hplace := FileSystem.leadsTo_of_target htarget
      cases hspecial : fs.specialAt? place with
      | none =>
        simp only [hspecial]
        refine .file hplace hspecial ?_ (FileSystem.read_put hplace hspecial _) (fun other hother => ?_)
          rfl
        · rw [FileSystem.fileAt?_put, if_pos rfl]
        · rw [FileSystem.fileAt?_put, if_neg hother]
      | some special =>
        simp only [hspecial]
        cases hsink : special.sink with
        | nowhere => exact .special hplace hspecial (.inl ⟨hsink, rfl, rfl⟩)
        | standardOutput => exact .special hplace hspecial (.inr (.inl ⟨hsink, rfl, rfl⟩))
        | standardError => exact .special hplace hspecial (.inr (.inr ⟨hsink, rfl, rfl⟩))
        | refused fault => exact .failed (.inr ⟨place, special, hplace, hspecial, hsink⟩)

theorem Delivery.stdout_eq {fs : FileSystem} {text : String} {o : Outcome}
    (h : Delivery fs text none o) : o.stdout = text := by
  cases h
  rfl

theorem Delivery.exists_of_plain {fs : FileSystem} {text path : String} {place : List String}
    {o : Outcome} (h : Delivery fs text (some path) o) (hplace : fs.LeadsTo path place)
    (hplain : fs.specialAt? place = none) :
    ∃ after, o = ⟨0, "", "", after⟩ ∧ after.fileAt? place = some text.toUTF8 ∧
      after.read path = .ok text.toUTF8 ∧
      ∀ other, other ≠ place → after.fileAt? other = fs.fileAt? other := by
  cases h with
  | file hplace' _ hcontent hread hothers _ =>
    obtain rfl := hplace.unique hplace'
    exact ⟨_, rfl, hcontent, hread, hothers⟩
  | special hplace' hspecial _ =>
    rw [hplace.unique hplace', hspecial] at hplain
    cases hplain
  | failed hfails =>
    rcases hfails with hnowhere | ⟨place', special, hplace', hspecial, -⟩
    · exact absurd hplace (hnowhere place)
    · rw [hplace.unique hplace', hspecial] at hplain
      cases hplain

theorem Delivery.exists_of_nowhere {fs : FileSystem} {text path : String} {o : Outcome}
    (h : Delivery fs text (some path) o) (hnowhere : ∀ place, ¬ fs.LeadsTo path place) :
    ∃ fault, o = ⟨1, "", (Invocation.writeFailure path fault).report, fs⟩ := by
  cases h with
  | file hplace | special hplace => exact absurd hplace (hnowhere _)
  | failed => exact ⟨_, rfl⟩

/-! ## The first step that fails -/

theorem Invocation.exists_first_step {i : Invocation} {s : Sources} {f : Failure}
    (h : i.result s = .error f) :
    ∃ before step after causes, i.steps = before ++ step :: after ∧
      (∀ earlier ∈ before, earlier.causes? s = none) ∧ step.causes? s = some causes ∧
      f = ⟨step.context i, causes⟩ := by
  have hfirst : i.steps.findSome? (Step.fault? i s) = some f := by
    rw [← failure?_result, h]
    rfl
  obtain ⟨before, step, after, hsteps, hfault, hbefore⟩ := List.findSome?_eq_some_iff.mp hfirst
  obtain ⟨causes, hcauses, rfl⟩ := Option.map_eq_some_iff.mp hfault
  exact ⟨before, step, after, causes, hsteps,
    fun earlier hearlier => Option.map_eq_none_iff.mp (hbefore earlier hearlier), hcauses, rfl⟩

end SceneMarkup.CommandLine
