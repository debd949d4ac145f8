import SceneMarkup.Json.Outline

/-!
# Reading outlines

A reader walks an outline in the order of the text and reports the first fault. `Outline.value` wants
any JSON value, `Outline.skim` only that the text is complete, `Outline.items` an array of something;
readers of records are put together from these. A budget limits how many containers may be open at
once (`Budget`).
-/

namespace SceneMarkup.Json

/-- How many more containers may be opened; `none` if there is no limit. -/
abbrev Budget := Option Nat

/-- Opens a container that starts after a position. -/
def Budget.enter : Budget → Position → Except Error Budget
  | none, _ => .ok none
  | some 0, p => .error (.broken .tooNested p.next)
  | some (n + 1), _ => .ok (some n)

namespace Ending

/-- The fault that a reader of a list meets at its end. -/
def listFault? : Ending → Option Error
  | commaClosed p => some (.broken .trailingComma p)
  | stray p => some (.broken .listEndExpected p)
  | endOfText false p => some (.broken .endInList p)
  | endOfText true p => some (.broken .endInValue p)
  | _ => none

/-- The fault that a reader of an object meets after its members; a key without a colon is read. -/
def objectFault? : Ending → Option Error
  | commaClosed p => some (.broken .trailingComma p)
  | stray p => some (.broken .objectEndExpected p)
  | endOfText false p => some (.broken .endInObject p)
  | endOfText true p => some (.broken .endInValue p)
  | noKey p => some (.broken .keyExpected p)
  | brokenKey read _ => some read
  | noColon key error => some (match key.text with
    | .ok _ => error
    | .error e => e)
  | _ => none

def skimmedListFault? : Ending → Option Error
  | commaClosed p => some (.broken .valueExpected p)
  | ending => ending.listFault?

def skimmedObjectFault? : Ending → Option Error
  | commaClosed p => some (.broken .keyExpected p)
  | endOfText _ p => some (.broken .endInObject p)
  | brokenKey _ skim => some skim
  | noColon _ error => some error
  | ending => ending.objectFault?

/-- The fault that a reader meets who wants nothing more from a list. -/
def surplusFault? : Ending → Option Error
  | commaClosed p => some (.broken .trailingComma p)
  | stray p => some (.broken .trailingText p)
  | endOfText false p => some (.broken .endInList p)
  | endOfText true p => some (.broken .trailingText p)
  | _ => none

def stop : Ending → Position
  | closed p | commaClosed p | stray p | endOfText _ p | noKey p => p
  | brokenKey e _ | noColon _ e => e.position
  | cut => .start

end Ending

def orFault : Option Error → Except Error Unit
  | none => .ok ()
  | some e => .error e

namespace Outline

/-- The fault of something that is not what is wanted, or that cannot be read at all. -/
def unwanted (o : Outline) (wanted : String) : Error :=
  match o.found with
  | .ok (found, p) => .unwanted (.type found wanted) p
  | .error e => e

mutual

def value (budget : Budget) : Outline → Except Error Value
  | null _ _ => .ok .null
  | bool _ _ b => .ok (.bool b)
  | number _ _ v => v
  | string _ _ text => text.map .string
  | broken _ _ read _ => .error read
  | array p items ending => do
    let budget ← budget.enter p
    let vs ← values budget items
    orFault ending.listFault?
    pure (.array vs)
  | object p members ending => do
    let budget ← budget.enter p
    let ms ← memberValues budget [] members
    orFault ending.objectFault?
    pure (.object ms)

def values (budget : Budget) : List Outline → Except Error (List Value)
  | [] => .ok []
  | o :: rest => do
    let v ← value budget o
    let vs ← values budget rest
    pure (v :: vs)

/-- Members added to those read before. -/
def memberValues (budget : Budget) (done : List (String × Value)) :
    List (Key × Outline × Position) → Except Error (List (String × Value))
  | [] => .ok done
  | (key, o, _) :: rest => do
    let k ← key.text
    let v ← value budget o
    memberValues budget (putMember k v done) rest

end

mutual

/-- Complete JSON, whatever its numbers and surrogates. -/
def skim : Outline → Except Error Unit
  | broken _ _ _ fault => .error fault
  | array _ items ending => do
    skimItems items
    orFault ending.skimmedListFault?
  | object _ members ending => do
    skimMembers members
    orFault ending.skimmedObjectFault?
  | _ => .ok ()

def skimItems : List Outline → Except Error Unit
  | [] => .ok ()
  | o :: rest => do
    skim o
    skimItems rest

def skimMembers : List (Key × Outline × Position) → Except Error Unit
  | [] => .ok ()
  | (_, o, _) :: rest => do
    skim o
    skimMembers rest

end

def text : Outline → Except Error String
  | string _ _ t => t
  | o => .error (o.unwanted "a string")

/-- An array of things that are read one by one. -/
def items {α : Type} (budget : Budget) (item : Budget → Outline → Except Error α) :
    Outline → Except Error (List α)
  | array p os ending => do
    let budget ← budget.enter p
    let xs ← os.mapM (item budget)
    orFault ending.listFault?
    pure xs
  | o => .error (o.unwanted "a sequence")

end Outline

/-- Reads the whole document; nothing may follow the value. -/
def Document.read {α : Type} (d : Document) (reader : Outline → Except Error α) :
    Except Error α := do
  let x ← reader d.root
  match d.surplus with
  | none => pure x
  | some p => throw (.broken .trailingText p)

/-- The value of a text, nested as deeply as it may be. -/
def Value.ofText (text : String) : Except Error Value :=
  (Document.ofText text).read (·.value none)

end SceneMarkup.Json
