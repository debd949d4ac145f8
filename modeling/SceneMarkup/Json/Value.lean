import SceneMarkup.Decimal.Layout
import SceneMarkup.Text.Quoted

/-!
# JSON values

Integers and floats are kept apart, and objects keep the order of their members. `Value.compact` is
the text of a value without any blanks.
-/

namespace SceneMarkup.Json

inductive Value where
  | null
  | bool (b : Bool)
  | integer (n : Int)
  | float (x : Float)
  | string (s : String)
  | array (items : List Value)
  | object (members : List (String × Value))
  deriving Repr, Inhabited

/-- Adds a member at the end; a repeated key keeps its place and takes the new value. -/
def putMember {α : Type} (key : String) (value : α) : List (String × α) → List (String × α)
  | [] => [(key, value)]
  | (k, v) :: rest => if k = key then (k, value) :: rest else (k, v) :: putMember key value rest

theorem lookup_putMember {α : Type} (key k : String) (value : α) (ms : List (String × α)) :
    (putMember key value ms).lookup k = if k = key then some value else ms.lookup k := by
  induction ms with
  | nil => by_cases h : k = key <;> simp [putMember, h]
  | cons m rest ih =>
    obtain ⟨l, v⟩ := m
    by_cases hl : l = key
    · subst hl
      by_cases h : k = l
      · simp [putMember, h]
      · have hb : (k == l) = false := by simpa using h
        simp [putMember, List.lookup_cons, h, hb]
    · by_cases h : k = l
      · subst h
        simp [putMember, hl]
      · have hb : (k == l) = false := by simpa using h
        simp [putMember, List.lookup_cons, hl, hb, ih]

namespace Value

/-- The member of an object; other values have none. -/
def member? (key : String) : Value → Option Value
  | object members => members.lookup key
  | _ => none

def string? : Value → Option String
  | string s => some s
  | _ => none

def quotedChar (c : Char) : List Char :=
  match c with
  | '"' => ['\\', '"']
  | '\\' => ['\\', '\\']
  | '\n' => ['\\', 'n']
  | '\r' => ['\\', 'r']
  | '\t' => ['\\', 't']
  | '\x08' => ['\\', 'b']
  | '\x0c' => ['\\', 'f']
  | c =>
    if c.toNat < 0x20 then
      let digits := Text.hexDigits c.toNat
      ['\\', 'u'] ++ List.replicate (4 - digits.length) '0' ++ digits
    else [c]

def quote (s : String) : String := String.ofList ('"' :: s.toList.flatMap quotedChar ++ ['"'])

mutual

def compact : Value → String
  | null => "null"
  | bool b => if b then "true" else "false"
  | integer n => toString n
  | float x => Layout.json.text x
  | string s => quote s
  | array items => "[" ++ compactItems items ++ "]"
  | object members => "\x7b" ++ compactMembers members ++ "\x7d"

def compactItems : List Value → String
  | [] => ""
  | [v] => compact v
  | v :: rest => compact v ++ "," ++ compactItems rest

def compactMembers : List (String × Value) → String
  | [] => ""
  | [(key, v)] => quote key ++ ":" ++ compact v
  | (key, v) :: rest => quote key ++ ":" ++ compact v ++ "," ++ compactMembers rest

end

end Value

end SceneMarkup.Json
