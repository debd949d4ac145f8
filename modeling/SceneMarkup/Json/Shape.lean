import SceneMarkup.Json.Error

/-!
# Shapes of values

A `Shape` says what a value is expected to be: a scalar, or a record with named fields, written as an
object or as an array in the order of the fields. `Shape.mismatch?` is the first place, in the order
of the value, where it is something else; a value without a mismatch can be taken apart by `text?`,
`number?`, `flag?` and `field?`, for which null is as good as absent.
-/

namespace SceneMarkup.Json

/-- Whether a field may be missing. -/
inductive Presence where
  /-- may be null, and may be missing in an object -/
  | optional
  | defaulted
  | required
  deriving DecidableEq, Repr

inductive Shape where
  | text
  | number
  | flag
  | anything
  | record (name : String) (fields : List (String × Presence × Shape))
  /-- an object with any keys, its values of one shape -/
  | table (entry : Shape)
  deriving Repr

namespace Shape

def missing? (members : List (String × Value)) :
    List (String × Presence × Shape) → Option Mismatch
  | [] => none
  | (key, presence, _) :: rest =>
    if presence = .required ∧ (members.lookup key).isNone then some (.missing key)
    else missing? members rest

mutual

def mismatch? : Shape → Value → Option Mismatch
  | text, .string _ => none
  | text, v => some (.type v.found "a string")
  | number, .integer _ => none
  | number, .float _ => none
  | number, v => some (.type v.found "f64")
  | flag, .bool _ => none
  | flag, v => some (.type v.found "a boolean")
  | anything, _ => none
  | record _ fields, .object members =>
    (members.findSome? fun m => memberMismatch? fields m.1 m.2).or (missing? members fields)
  | record name fields, .array items => itemMismatch? name fields.length items fields items
  | record name _, v => some (.type v.found ("struct " ++ name))
  | table entry, .object members => members.findSome? fun m => mismatch? entry m.2
  | table _, v => some (.type v.found "a map")

/-- A member of a record; members that are no fields do not matter. -/
def memberMismatch? : List (String × Presence × Shape) → String → Value → Option Mismatch
  | [], _, _ => none
  | (key, presence, shape) :: rest, k, v =>
    if k = key then
      match presence, v with
      | .optional, .null => none
      | _, v => mismatch? shape v
    else memberMismatch? rest k v

/-- The remaining items of a record of `size` fields that is written as the array `all`. -/
def itemMismatch? (name : String) (size : Nat) (all : List Value) :
    List (String × Presence × Shape) → List Value → Option Mismatch
  | [], [] => none
  | [], _ :: _ => some (.tooMany all.length)
  | (_, presence, _) :: rest, [] =>
    if presence = .defaulted then itemMismatch? name size all rest []
    else some (.tooFew all.length name size)
  | (_, presence, shape) :: rest, v :: vs =>
    (match presence, v with
      | .optional, .null => none
      | _, v => mismatch? shape v).or (itemMismatch? name size all rest vs)

end

/-- The field of a record, in either form. -/
def field? (shape : Shape) (key : String) (v : Value) : Option Value :=
  match shape, v with
  | _, .object members => members.lookup key
  | record _ fields, .array items => (fields.map (·.1)).idxOf? key |>.bind (items[·]?)
  | _, _ => none

end Shape

namespace Value

def number? : Value → Option Float
  | integer n => some (Float.ofInt n)
  | float x => some x
  | _ => none

def flag? : Value → Option Bool
  | bool b => some b
  | _ => none

end Value

end SceneMarkup.Json
