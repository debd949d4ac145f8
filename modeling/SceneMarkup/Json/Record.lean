import SceneMarkup.Json.Reading

/-!
# Reading records from a text

A record is written as an object, whose members that are no fields are only skimmed, or as an array
of its fields in order. `Outline.record` reads one field after the other into a draft, in the order of
the text.
-/

namespace SceneMarkup.Json

/-- A field of a record whose draft is `σ`. -/
structure RecordField (σ : Type) where
  key : String
  required : Bool
  isSet : σ → Bool
  read : Budget → Outline → Except Error (σ → σ)

namespace RecordField

variable {σ : Type}

def named? (fields : List (RecordField σ)) (key : String) : Option (RecordField σ) :=
  fields.find? fun f => f.key = key

/-- A key that is due to be read into a draft: a field that is set already is a fault. -/
def ofKey (fields : List (RecordField σ)) (draft : σ) (key : Key) : Except Error (Option (RecordField σ)) := do
  let k ← key.text
  match named? fields k with
  | none => pure none
  | some f => if f.isSet draft then throw (.unwanted (.duplicate k) key.leave) else pure (some f)

def readMember (fields : List (RecordField σ)) (budget : Budget) (draft : σ)
    (member : Key × Outline × Position) : Except Error σ := do
  match ← ofKey fields draft member.1 with
  | some f => do
    let set ← f.read budget member.2.1
    pure (set draft)
  | none => do
    member.2.1.skim
    pure draft

def readEnding (fields : List (RecordField σ)) (draft : σ) (ending : Ending) : Except Error Unit := do
  match ending with
  | .noColon key error =>
    let _ ← ofKey fields draft key
    throw error
  | ending => orFault ending.objectFault?

def readItems (record : String) (size : Nat) (budget : Budget) (ending : Ending) :
    Nat → List (RecordField σ) → List Outline → σ → Except Error σ
  | _, [], [], draft => do
    orFault ending.surplusFault?
    pure draft
  | _, [], o :: _, _ => throw (.broken .trailingText o.firstByte)
  | count, f :: fields, [], draft => do
    orFault ending.listFault?
    if f.required then throw (.unwanted (.tooFew count record size) ending.stop)
    else readItems record size budget ending count fields [] draft
  | count, f :: fields, o :: rest, draft => do
    let set ← f.read budget o
    readItems record size budget ending (count + 1) fields rest (set draft)

end RecordField

/-- Reads a record into a draft that starts empty. -/
def Outline.record {σ : Type} (name : String) (fields : List (RecordField σ)) (empty : σ)
    (budget : Budget) : Outline → Except Error σ
  | .object p members ending => do
    let budget ← budget.enter p
    let draft ← members.foldlM (RecordField.readMember fields budget) empty
    RecordField.readEnding fields draft ending
    match fields.find? fun f => f.required && !f.isSet draft with
    | some f => throw (.unwanted (.missing f.key) ending.stop)
    | none => pure draft
  | .array p items ending => do
    let budget ← budget.enter p
    RecordField.readItems name fields.length budget ending 0 fields items empty
  | o => throw (o.unwanted ("struct " ++ name))

end SceneMarkup.Json
