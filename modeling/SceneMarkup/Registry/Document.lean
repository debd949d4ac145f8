import SceneMarkup.Json.Record
import SceneMarkup.Registry.Basic

/-!
# Registry documents

A registry document lists component descriptors under `components`. It is read as what it should be
from the start, so the first fault in the text counts, be it a break of the text or a value of the
wrong type; only then are the components registered.
-/

namespace SceneMarkup

open Json (Outline Budget Ending Error RecordField)

/-- The containers that a registry document may nest. -/
def registryBudget : Budget := some 127

namespace PropType

def ofName (name : String) (p : Json.Position) : Except Error PropType :=
  match ofToken? name with
  | some t => .ok t
  | none => .error (.unwanted (.variant name (all.map token)) p)

/-- The fault of an object that names no type. -/
def emptyFault (ending : Ending) : Error :=
  ending.objectFault?.getD (.broken .valueExpected ending.stop)

/-- The fault of an object that goes on after naming a type, from a position on. -/
def surplusFault? (next : Json.Position) : Ending → Option Error
  | .closed _ => none
  | .endOfText false p => some (.broken .endInObject p)
  | _ => some (.broken .valueExpected next)

/-- A type is written as its name, or as an object that maps its name to null. -/
def read (budget : Budget) (o : Outline) : Except Error PropType :=
  match o with
  | .string _ stop name => do ofName (← name) stop
  | .object p members ending => do
    let _ ← budget.enter p
    match members with
    | [] =>
      match ending with
      | .noColon key error => do
        let _ ← ofName (← key.text) key.stop
        throw error
      | ending => throw (emptyFault ending)
    | (key, value, next) :: rest =>
      let t ← ofName (← key.text) key.stop
      match value with
      | .null _ _ =>
        match rest, surplusFault? next ending with
        | [], none => pure t
        | [], some e => throw e
        | _ :: _, _ => throw (.broken .valueExpected next)
      | value => throw (value.unwanted "unit")
  | .broken _ (some '"') fault _ => .error fault
  | .broken _ none fault _ => .error fault
  | o => .error (.broken .valueExpected o.firstByte)

end PropType

structure PropDraft where
  name : Option String
  type : Option PropType
  default : Option (Option Json.Value)

/-- A default that is null is none. -/
def PropSchema.readDefault (budget : Budget) (o : Outline) : Except Error (Option Json.Value) :=
  match o with
  | .null _ _ => .ok none
  | o => (o.value budget).map some

def PropDraft.fields : List (RecordField PropDraft) :=
  [{ key := "name", required := true, isSet := (·.name.isSome),
      read := fun _ o => o.text.map fun x d => { d with name := some x } },
    { key := "type", required := false, isSet := (·.type.isSome),
      read := fun b o => (PropType.read b o).map fun x d => { d with type := some x } },
    { key := "default", required := false, isSet := (·.default.isSome),
      read := fun b o => (PropSchema.readDefault b o).map fun x d => { d with default := some x } }]

def PropSchema.read (budget : Budget) (o : Outline) : Except Error PropSchema :=
  (o.record "PropSchema" PropDraft.fields ⟨none, none, none⟩ budget).map fun d =>
    ⟨d.name.getD "", d.type.getD .any, d.default.join⟩

structure DescriptorDraft where
  name : Option String
  props : Option (List PropSchema)

def DescriptorDraft.fields : List (RecordField DescriptorDraft) :=
  [{ key := "name", required := true, isSet := (·.name.isSome),
      read := fun _ o => o.text.map fun x d => { d with name := some x } },
    { key := "props", required := false, isSet := (·.props.isSome),
      read := fun b o => (o.items b PropSchema.read).map fun x d => { d with props := some x } }]

def Descriptor.read (budget : Budget) (o : Outline) : Except Error Descriptor :=
  (o.record "ComponentDescriptor" DescriptorDraft.fields ⟨none, none⟩ budget).map fun d =>
    ⟨d.name.getD "", d.props.getD []⟩

def registryFields : List (RecordField (Option (List Descriptor))) :=
  [{ key := "components", required := false, isSet := (·.isSome),
      read := fun b o => (o.items b Descriptor.read).map fun x _ => some x }]

/-- The components of a document; one without any lists none. -/
def readComponents (o : Outline) : Except Error (List Descriptor) :=
  (o.record "RegistryDocument" registryFields none registryBudget).map (·.getD [])

def Registry.ofText (text : String) : Except RegistryError Registry :=
  match (Json.Document.ofText text).read readComponents with
  | .ok ds => ofDescriptors ds
  | .error e => .error (.invalidDocument e)

def Registry.ofFile (content : FileContent) : Except RegistryError Registry :=
  match content.text with
  | .ok t => ofText t
  | .error fault => .error (.unreadable fault)

end SceneMarkup
