import SceneMarkup.CommandLine.Run
import SceneMarkup.Proofs.Outcomes
import SceneMarkup.Proofs.Registry.Registration

/-!
# The steps of an invocation

An invocation reads its input, loads a registry, registers the components of its flags from left to
right and reads the scene (`Invocation.steps`). Whether a step fails, and why, is known without the
others from what is found (`Step.fault?`), and the invocation fails as the first one of them does
(`failure?_result`). Where none fails, the markup is that of the scene (`result_of_steps`).
-/

namespace SceneMarkup

theorem FileContent.text_toUTF8 (s : String) : FileContent.text (.ok s.toUTF8) = .ok s := by
  have hvalid : s.toUTF8.IsValidUTF8 := s.isValidUTF8
  show textOfBytes s.toUTF8 = _
  rw [textOfBytes, String.fromUTF8?, dif_pos hvalid]
  rfl

namespace CommandLine

/-- What is found where an invocation looks. -/
structure Sources where
  input : FileContent
  registry : Option FileContent

/-- What an invocation does before it writes. -/
inductive Step where
  | input
  | registry
  | component (name : String)
  | scene
  deriving DecidableEq, Repr

namespace Step

def context (i : Invocation) : Step → String
  | input => "Failed to read " ++ i.inputPath?.getD "stdin"
  | registry => "Failed to load registry " ++ i.registry.getD ""
  | component name => "Invalid --component " ++ name
  | scene => "Invalid JSON"

/-- Why the step fails, if it does. A scene that cannot be read is the fault of the input. -/
def causes? (s : Sources) : Step → Option (List String)
  | input => (failure? s.input.text).map fun fault => [fault.message]
  | registry =>
    s.registry.bind fun content => (failure? (Registry.ofFile content)).map Invocation.registryCauses
  | component name =>
    if isComponentName name then none else some [(RegistryError.invalidName name).message]
  | scene =>
    s.input.text.toOption.bind fun text => (failure? (Node.ofText text)).map fun e => [e.message]

def fault? (i : Invocation) (s : Sources) (step : Step) : Option Failure :=
  (step.causes? s).map fun causes => ⟨step.context i, causes⟩

end Step

namespace Invocation

variable {i : Invocation} {s : Sources} {text : String} {node : Node}

def steps (i : Invocation) : List Step :=
  [.input, .registry] ++ i.components.map .component ++ [.scene]

/-- The registry of what is found, without the components of flags. -/
def loaded (i : Invocation) (s : Sources) : Except Failure Registry :=
  s.registry.elim (.ok .empty) (registryOf (i.registry.getD ""))

def result (i : Invocation) (s : Sources) : Except Failure String := do
  let text ← i.inputText s.input
  let loaded ← i.loaded s
  i.convert text loaded

/-! ## Each step -/

theorem failure?_inputText (i : Invocation) (s : Sources) :
    failure? (i.inputText s.input) = Step.input.fault? i s := by
  unfold inputText Step.fault? Step.causes?
  cases s.input.text <;> rfl

theorem failure?_loaded (i : Invocation) (s : Sources) :
    failure? (i.loaded s) = Step.registry.fault? i s := by
  unfold loaded Step.fault? Step.causes?
  cases s.registry with
  | none => rfl
  | some content =>
    rw [Option.elim_some, Option.bind_some, registryOf]
    cases Registry.ofFile content <;> rfl

theorem failure?_addComponent (i : Invocation) (s : Sources) (r : Registry) (name : String) :
    failure? (addComponent r name) = (Step.component name).fault? i s := by
  unfold addComponent Registry.tryRegister Step.fault? Step.causes?
  dsimp only
  cases isComponentName name <;> rfl

theorem failure?_addComponents (i : Invocation) (s : Sources) (r : Registry)
    (names : List String) :
    failure? (names.foldlM addComponent r) =
      (names.map Step.component).findSome? (Step.fault? i s) := by
  induction names generalizing r with
  | nil => rfl
  | cons name rest ih =>
    rw [List.foldlM_cons, failure?_bind fun next _ => ih next, failure?_addComponent i s,
      List.map_cons, List.findSome?_cons]
    cases (Step.component name).fault? i s <;> rfl

theorem failure?_readScene (i : Invocation) (h : s.input.text = .ok text) :
    failure? (readScene text) = Step.scene.fault? i s := by
  unfold readScene Step.fault? Step.causes?
  simp only [h, Except.toOption, Option.bind_some]
  cases Node.ofText text <;> rfl

theorem text_of_inputText (h : i.inputText s.input = .ok text) : s.input.text = .ok text := by
  unfold inputText at h
  split at h
  · rename_i htext
    cases h
    exact htext
  · cases h

/-! ## The whole invocation -/

theorem findSome?_steps {α : Type} (i : Invocation) (f : Step → Option α) :
    i.steps.findSome? f = (f .input).or ((f .registry).or
      (((i.components.map Step.component).findSome? f).or (f .scene))) := by
  simp only [steps, List.cons_append, List.nil_append, List.findSome?_cons, List.findSome?_append,
    List.findSome?_nil]
  cases f .input <;> cases f .registry <;> cases f .scene <;> rfl

/-- An invocation fails as the first step does that fails. -/
theorem failure?_result (i : Invocation) (s : Sources) :
    failure? (i.result s) = i.steps.findSome? (Step.fault? i s) := by
  rw [findSome?_steps, ← failure?_inputText, ← failure?_loaded]
  refine failure?_bind fun text htext => failure?_bind fun loaded _ => ?_
  rw [← failure?_addComponents i s loaded]
  refine failure?_bind fun registry _ => ?_
  rw [← failure?_readScene i (text_of_inputText htext)]
  rw [← Option.or_none (o := failure? (readScene text))]
  exact failure?_bind fun node _ => rfl

theorem addComponents_of_valid {names : List String}
    (h : ∀ name ∈ names, isComponentName name = true) (r : Registry) :
    names.foldlM addComponent r = .ok ((names.map (Descriptor.mk · [])).foldl Registry.register r) := by
  induction names generalizing r with
  | nil => rfl
  | cons name rest ih =>
    obtain ⟨hname, hrest⟩ := List.forall_mem_cons.mp h
    have hadd : addComponent r name = .ok (r.register ⟨name, []⟩) := by
      rw [addComponent, Registry.tryRegister, if_pos hname]
    rw [List.foldlM_cons, hadd]
    exact ih hrest _

theorem result_of_steps {registry : Registry} (htext : s.input.text = .ok text)
    (hloaded : i.loaded s = .ok registry) (hvalid : ∀ name ∈ i.components, isComponentName name = true)
    (hnode : Node.ofText text = .ok node) :
    i.result s = .ok
      (i.shown ((i.components.map (Descriptor.mk · [])).foldl Registry.register registry) node) := by
  have hread : i.inputText s.input = .ok text := by rw [inputText, htext]
  have hscene : readScene text = .ok node := by rw [readScene, hnode]
  rw [result, hread, hloaded]
  simp only [convert, bind, Except.bind, addComponents_of_valid hvalid, hscene]
  rfl

theorem valid_of_addComponents {names : List String} {r r' : Registry}
    (h : names.foldlM addComponent r = .ok r') : ∀ name ∈ names, isComponentName name = true := by
  induction names generalizing r with
  | nil => exact List.forall_mem_nil _
  | cons name rest ih =>
    rw [List.foldlM_cons] at h
    obtain ⟨next, hadd, hrest⟩ := exists_of_bind_eq_ok h
    refine List.forall_mem_cons.mpr ⟨?_, ih hrest⟩
    unfold addComponent Registry.tryRegister at hadd
    split at hadd
    · rename_i hregister
      split at hregister
      · assumption
      · cases hregister
    · cases hadd

theorem exists_of_result {out : String} (h : i.result s = .ok out) :
    ∃ text registry node, s.input.text = .ok text ∧ i.loaded s = .ok registry ∧
      (∀ name ∈ i.components, isComponentName name = true) ∧ Node.ofText text = .ok node := by
  obtain ⟨text, hread, h⟩ := exists_of_bind_eq_ok h
  obtain ⟨registry, hloaded, h⟩ := exists_of_bind_eq_ok h
  obtain ⟨added, hadded, h⟩ := exists_of_bind_eq_ok h
  obtain ⟨node, hscene, -⟩ := exists_of_bind_eq_ok h
  refine ⟨text, registry, node, text_of_inputText hread, hloaded, valid_of_addComponents hadded, ?_⟩
  unfold readScene at hscene
  split at hscene
  · rename_i hnode
    cases hscene
    exact hnode
  · cases hscene

end Invocation

end CommandLine

end SceneMarkup
