import SceneMarkup.Json.Error
import SceneMarkup.Json.Value
import SceneMarkup.Scene.File

/-!
# The component registry

A component is found by its name without anything but ASCII letters and digits. A registry holds
descriptors of components under their names, no two under one name. `Registry.register` takes any
name and replaces what was there; `Registry.tryRegister` takes only names that an instance can have;
`Registry.ofDescriptors` also refuses a name that comes twice.
-/

namespace SceneMarkup

open Json (Value)

/-! ## Names -/

def normalizeName (name : String) : String := String.ofList (name.toList.filter Char.isAlphanum)

/-- Whether a name can be the normalised name of an instance of a component. -/
def isComponentName (name : String) : Bool := name ≠ "" && normalizeName name = name

/-! ## Descriptors -/

inductive PropType where
  | text
  | boolean
  | number
  | variant
  | any
  deriving DecidableEq, Repr

namespace PropType

def token : PropType → String
  | text => "TEXT"
  | boolean => "BOOLEAN"
  | number => "NUMBER"
  | variant => "VARIANT"
  | any => "ANY"

def all : List PropType := [text, boolean, number, variant, any]

def ofToken? (token : String) : Option PropType := all.find? fun t => t.token = token

end PropType

structure PropSchema where
  name : String
  type : PropType
  default : Option Value
  deriving Repr

structure Descriptor where
  name : String
  props : List PropSchema
  deriving Repr

def Descriptor.prop? (d : Descriptor) (name : String) : Option PropSchema :=
  d.props.find? fun p => p.name = name

def Descriptor.declares (d : Descriptor) (name : String) : Bool := (d.prop? name).isSome

/-- A prop as documents write it; a missing default is left out. -/
def PropSchema.toValue (p : PropSchema) : Value :=
  .object ([("name", .string p.name), ("type", .string p.type.token)] ++
    (p.default.map fun v => ("default", v)).toList)

/-- A descriptor as documents write it. -/
def Descriptor.toValue (d : Descriptor) : Value :=
  .object [("name", .string d.name), ("props", .array (d.props.map PropSchema.toValue))]

/-! ## Registries -/

/-- Puts a descriptor in the place of the one with its name, or at the end. -/
def putDescriptor (d : Descriptor) : List Descriptor → List Descriptor
  | [] => [d]
  | x :: rest => if x.name = d.name then d :: rest else x :: putDescriptor d rest

theorem map_name_putDescriptor (d : Descriptor) (ds : List Descriptor) :
    (putDescriptor d ds).map (·.name) =
      if d.name ∈ ds.map (·.name) then ds.map (·.name) else ds.map (·.name) ++ [d.name] := by
  induction ds with
  | nil => rfl
  | cons x rest ih =>
    by_cases h : x.name = d.name
    · simp [putDescriptor, h]
    · have h' : ¬ d.name = x.name := fun e => h e.symm
      simp only [putDescriptor, h, if_false, List.map_cons, ih, List.mem_cons, h', false_or]
      split <;> simp

theorem find?_putDescriptor (d : Descriptor) (name : String) (ds : List Descriptor) :
    (putDescriptor d ds).find? (fun x => x.name = name) =
      if d.name = name then some d else ds.find? fun x => x.name = name := by
  induction ds with
  | nil => by_cases h : d.name = name <;> simp [putDescriptor, h]
  | cons x rest ih =>
    by_cases hx : x.name = d.name
    · by_cases h : d.name = name <;> simp [putDescriptor, hx, h]
    · by_cases h : x.name = name
      · subst h
        have hd : ¬ d.name = x.name := fun e => hx e.symm
        simp [putDescriptor, hx, hd]
      · simp [putDescriptor, hx, h, ih]

/-- Descriptors with distinct names. -/
structure Registry where
  components : List Descriptor
  distinct : (components.map (·.name)).Nodup

inductive RegistryError where
  | invalidDocument (e : Json.Error)
  | unreadable (fault : FileFault)
  | duplicateComponent (name : String)
  | invalidName (name : String)
  deriving DecidableEq, Repr

def RegistryError.message : RegistryError → String
  | invalidDocument e => "Invalid registry document: " ++ e.message
  | unreadable fault => "I/O error while reading registry: " ++ fault.message
  | duplicateComponent name => "Duplicate component name: " ++ name
  | invalidName name => "Component name '" ++ name ++ "' must be non-empty and alphanumeric"

namespace Registry

def empty : Registry := ⟨[], .nil⟩

def get? (r : Registry) (name : String) : Option Descriptor :=
  r.components.find? fun d => d.name = name

def contains (r : Registry) (name : String) : Bool := (r.get? name).isSome

def size (r : Registry) : Nat := r.components.length

/-- Registers a component in place of any other of its name. -/
def register (r : Registry) (d : Descriptor) : Registry where
  components := putDescriptor d r.components
  distinct := by
    rw [map_name_putDescriptor]
    split
    · exact r.distinct
    · rename_i h
      simpa [List.nodup_append, r.distinct] using fun a ha e => h (by simpa using ⟨a, ha, e⟩)

/-- The last component registered under a name is the one that is found. -/
theorem get?_register (r : Registry) (d : Descriptor) (name : String) :
    (r.register d).get? name = if d.name = name then some d else r.get? name :=
  find?_putDescriptor d name r.components

/-- Registers a component, provided that an instance can have its name. -/
def tryRegister (r : Registry) (d : Descriptor) : Except RegistryError Registry :=
  if isComponentName d.name then .ok (r.register d) else .error (.invalidName d.name)

def add (r : Registry) (d : Descriptor) : Except RegistryError Registry :=
  if r.contains d.name then .error (.duplicateComponent d.name) else r.tryRegister d

/-- Registers components one after the other; the first fault counts. -/
def ofDescriptors (ds : List Descriptor) : Except RegistryError Registry :=
  ds.foldlM add empty

/-- The descriptors in the order of their names. -/
def sorted (r : Registry) : List Descriptor :=
  r.components.mergeSort fun a b => decide (a.name ≤ b.name)

end Registry

end SceneMarkup
