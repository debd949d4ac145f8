import SceneMarkup.Decimal.Numeral
import SceneMarkup.Markup.Basic
import SceneMarkup.Scene.Node
import SceneMarkup.Unicode.Words

/-!
# Properties as attributes

The attribute name of a property key is what precedes the first `#`, its words joined, the first one
starting small and the others capital. A boolean or numeric property is written as an expression if its value reads as one; every other
property as the text of its value.
-/

namespace SceneMarkup

open Json (Value)

/-! ## Names -/

/-- The words of a property key before its identifier suffix. -/
def keyWords (key : List Char) : List (List Char) :=
  Unicode.words (key.takeWhile (· != '#'))

def recase (form : Char → List Char) : List Char → List Char
  | [] => []
  | c :: rest => form c ++ rest

def joinWords : List (List Char) → List Char
  | [] => []
  | first :: rest => recase Unicode.small first ++ rest.flatMap (recase Unicode.capital)

/-- The attribute name of a property key; empty if nothing but blanks precedes the first `#`. -/
def propName (key : String) : String := String.ofList (joinWords (keyWords key.toList))

/-! ## Values -/

/-- The text of a value: strings as they are, nothing for null, else JSON. -/
def literalText : Value → String
  | .null => ""
  | .string s => s
  | v => v.compact

def readsAsExpression (text : List Char) : Bool :=
  text == "true".toList || text == "false".toList ||
    match floatOfText? text with
    | some x => x.isFinite
    | none => false

/-- The expression that a value reads as. -/
def expression? : Value → Option String
  | .bool b => some (Value.bool b).compact
  | .integer n => some (Value.integer n).compact
  | .float x => some (Value.float x).compact
  | .string s =>
    let text := Unicode.trim s.toList
    if readsAsExpression text then some (String.ofList text) else none
  | _ => none

def Property.attributeValue (p : Property) : AttributeValue :=
  match p.kind with
  | .boolean | .number =>
    match expression? p.value with
    | some text => .expression text
    | none => .quoted (literalText p.value)
  | .text | .other _ => .quoted (literalText p.value)

/-- The attribute of a property; none if its key gives no name. -/
def Property.attribute? (key : String) (p : Property) : Option Attribute :=
  if propName key = "" then none else some ⟨propName key, p.attributeValue⟩

end SceneMarkup
