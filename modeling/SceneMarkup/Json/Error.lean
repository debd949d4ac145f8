import SceneMarkup.Json.Position
import SceneMarkup.Json.Value
import SceneMarkup.Text.Quoted

/-!
# Why a text or a value cannot be read

A text breaks where it stops being JSON (`Breakage`); a value may be good JSON and not what is wanted
(`Mismatch`). An `Error` is either, with the position at which a reader of a text meets it.
-/

namespace SceneMarkup.Json

/-- Where a text stops being JSON. -/
inductive Breakage where
  | endInValue
  | endInString
  | endInList
  | endInObject
  | valueExpected
  | wordExpected
  | badNumber
  | numberOutOfRange
  | controlCharacter
  | badEscape
  | unpairedSurrogate
  | loneSurrogate
  | keyExpected
  | colonExpected
  | listEndExpected
  | objectEndExpected
  | trailingComma
  | trailingText
  | tooNested
  deriving DecidableEq, Repr

def Breakage.message : Breakage → String
  | endInValue => "EOF while parsing a value"
  | endInString => "EOF while parsing a string"
  | endInList => "EOF while parsing a list"
  | endInObject => "EOF while parsing an object"
  | valueExpected => "expected value"
  | wordExpected => "expected ident"
  | badNumber => "invalid number"
  | numberOutOfRange => "number out of range"
  | controlCharacter => "control character (\\u0000-\\u001F) found while parsing a string"
  | badEscape => "invalid escape"
  | unpairedSurrogate => "unexpected end of hex escape"
  | loneSurrogate => "lone leading surrogate in hex escape"
  | keyExpected => "key must be a string"
  | colonExpected => "expected `:`"
  | listEndExpected => "expected `,` or `]`"
  | objectEndExpected => "expected `,` or `\x7d`"
  | trailingComma => "trailing comma"
  | trailingText => "trailing characters"
  | tooNested => "recursion limit exceeded"

inductive Found where
  | null
  | bool (b : Bool)
  | integer (n : Int)
  | float (x : Float)
  | string (s : String)
  | sequence
  | map
  deriving DecidableEq, Repr

def Found.text : Found → String
  | null => "null"
  | bool b => "boolean `" ++ (if b then "true" else "false") ++ "`"
  | integer n => "integer `" ++ toString n ++ "`"
  | float x => "floating point `" ++ Layout.json.text x ++ "`"
  | string s => "string " ++ Text.quoted s
  | sequence => "sequence"
  | map => "map"

def Value.found : Value → Found
  | .null => .null
  | .bool b => .bool b
  | .integer n => .integer n
  | .float x => .float x
  | .string s => .string s
  | .array _ => .sequence
  | .object _ => .map

/-- Why a value is not what is wanted. -/
inductive Mismatch where
  | type (found : Found) (wanted : String)
  /-- a record written as an array that ends before its required fields do -/
  | tooFew (count : Nat) (record : String) (fields : Nat)
  | tooMany (count : Nat)
  | missing (field : String)
  | duplicate (field : String)
  | variant (found : String) (known : List String)
  deriving DecidableEq, Repr

def Mismatch.message : Mismatch → String
  | type found wanted => "invalid type: " ++ found.text ++ ", expected " ++ wanted
  | tooFew count record fields =>
    "invalid length " ++ count.repr ++ ", expected struct " ++ record ++ " with " ++ fields.repr ++
      " elements"
  | tooMany count => "invalid length " ++ count.repr ++ ", expected fewer elements in array"
  | missing field => "missing field `" ++ field ++ "`"
  | duplicate field => "duplicate field `" ++ field ++ "`"
  | variant found known =>
    "unknown variant `" ++ found ++ "`, expected one of " ++
      ", ".intercalate (known.map fun name => "`" ++ name ++ "`")

inductive Cause where
  | breakage (b : Breakage)
  | mismatch (m : Mismatch)
  deriving DecidableEq, Repr

def Cause.message : Cause → String
  | breakage b => b.message
  | mismatch m => m.message

/-- A cause and the position at which it is met. -/
structure Error where
  cause : Cause
  position : Position
  deriving DecidableEq, Repr

namespace Error

def message (e : Error) : String :=
  e.cause.message ++ " at line " ++ e.position.line.repr ++ " column " ++ e.position.column.repr

def broken (b : Breakage) (p : Position) : Error := ⟨.breakage b, p⟩

def unwanted (m : Mismatch) (p : Position) : Error := ⟨.mismatch m, p⟩

end Error

end SceneMarkup.Json
