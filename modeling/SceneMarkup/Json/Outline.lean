import SceneMarkup.Json.Number
import SceneMarkup.Json.StringText

/-!
# Outlines

The outline of a text is its JSON value with positions, as far as the text goes: where it stops being
JSON, the outline ends with what is found there (`Outline.broken`, `Ending`). Scanning therefore never
fails (`Document.ofText`); which fault counts is up to the reader, who meets them in the order of the
text and may want something else than JSON in general before the first one.

Nesting is not limited, so the scan keeps the open containers in a list of its own.
-/

namespace SceneMarkup.Json

structure Key where
  text : Except Error String
  /-- after the closing quote -/
  stop : Position
  /-- where a reader stands who leaves the object after this key: past the spaces, and past the
  closing brace if that comes next -/
  leave : Position

/-- What follows the last item or member of a container. -/
inductive Ending where
  | closed (p : Position)
  | commaClosed (p : Position)
  /-- neither a comma nor the closing bracket -/
  | stray (p : Position)
  | endOfText (afterComma : Bool) (p : Position)
  /-- nothing, since the text breaks inside the last item -/
  | cut
  /-- no key where one is due, but something else -/
  | noKey (p : Position)
  /-- a key that breaks off, for a reader and for a skimmer -/
  | brokenKey (read skim : Error)
  /-- a key without a colon after it -/
  | noColon (key : Key) (error : Error)

/-- A value with its positions: each starts after `start` and stops at `stop`. -/
inductive Outline where
  | null (start stop : Position)
  | bool (start stop : Position) (b : Bool)
  | number (start stop : Position) (value : Except Error Value)
  | string (start stop : Position) (text : Except Error String)
  | array (start : Position) (items : List Outline) (ending : Ending)
  /-- each member with the position from which the text goes on after it -/
  | object (start : Position) (members : List (Key × Outline × Position)) (ending : Ending)
  /-- no value; `lead` is the character found there, and the faults are those of a reader and of a
  skimmer -/
  | broken (start : Position) (lead : Option Char) (read skim : Error)

namespace Outline

def start : Outline → Position
  | null p _ | bool p _ _ | number p _ _ | string p _ _ | array p _ _ | object p _ _
  | broken p _ _ _ => p

def firstByte (o : Outline) : Position := o.start.next

end Outline

/-! ## Scanning -/

/-- A scalar and where the text goes on, or a broken outline. -/
abbrev ScalarScan := Except Outline (Outline × Cursor)

def scanWord (c : Cursor) : List Char → Except Error Cursor
  | [] => .ok c
  | w :: word =>
    match c.rest with
    | [] => .error (.broken .endInValue c.position)
    | d :: rest =>
      if d = w then scanWord ⟨c.position.past d, rest⟩ word
      else .error (.broken .wordExpected (c.position.onto d))

/-- A value that is no container. -/
def scanScalar (fuel : Nat) (c : Cursor) : ScalarScan :=
  let p := c.position
  let word (word : String) (outline : Position → Position → Outline) : ScalarScan :=
    match scanWord c word.toList with
    | .ok after => .ok (outline p after.position, after)
    | .error e => .error (.broken p c.rest.head? e e)
  match c.rest with
  | [] => .error (.broken p none (.broken .endInValue p) (.broken .endInValue p))
  | 'n' :: _ => word "null" .null
  | 't' :: _ => word "true" (.bool · · true)
  | 'f' :: _ => word "false" (.bool · · false)
  | '"' :: rest =>
    let inside : Cursor := ⟨p.next, rest⟩
    match scanString .skim fuel inside, scanString .read fuel inside with
    | .ok (_, after), text => .ok (.string p after.position (text.map (·.1)), after)
    | .error skim, .error read => .error (.broken p '"' read skim)
    | .error skim, .ok _ => .error (.broken p '"' skim skim)
  | d :: _ =>
    if d == '-' || d.isDigit then
      match scanNumber c with
      | .number t after => .ok (.number p after.position (t.value after.position), after)
      | .endOfText stop => .error (.broken p d (.broken .endInValue stop) (.broken .badNumber stop))
      | .bad stop => .error (.broken p d (.broken .badNumber stop) (.broken .badNumber stop))
    else .error (.broken p d (.broken .valueExpected (p.onto d)) (.broken .valueExpected (p.onto d)))

/-- What stands where something else is due, and where a reader reports it. -/
def Outline.found (o : Outline) : Except Error (Found × Position) :=
  match o with
  | null _ stop => .ok (.null, stop)
  | bool _ stop b => .ok (.bool b, stop)
  | number _ stop value => value.map fun v => (v.found, stop)
  | string _ stop text => text.map fun s => (.string s, stop)
  | array p _ _ => .ok (.sequence, p)
  | object p _ _ => .ok (.map, p)
  | broken _ _ read _ => .error read

/-- A container whose content is not complete, with what it holds so far in reverse. -/
inductive Open where
  | list (start : Position) (items : List Outline)
  | object (start : Position) (members : List (Key × Outline × Position)) (key : Key)

/-- The outline of a text that breaks inside `o`, in the innermost of the open containers. -/
def cutOff (o : Outline) : List Open → Outline
  | [] => o
  | .list p items :: rest => cutOff (.array p (o :: items).reverse .cut) rest
  | .object p members key :: rest =>
    cutOff (.object p ((key, o, o.start) :: members).reverse .cut) rest

/-- A key and its colon, or how the object ends without them. -/
def scanKey (fuel : Nat) (afterComma : Bool) (c : Cursor) : Except Ending (Key × Cursor) :=
  match c.rest with
  | [] => .error (.endOfText afterComma c.position)
  | '"' :: rest =>
    let inside : Cursor := ⟨c.position.next, rest⟩
    match scanString .skim fuel inside, scanString .read fuel inside with
    | .error skim, .error read => .error (.brokenKey read skim)
    | .error skim, .ok _ => .error (.brokenKey skim skim)
    | .ok (_, after), text =>
      let gap := after.skipSpace
      let key : Key := ⟨text.map (·.1), after.position, match gap.rest with
        | '\x7d' :: _ => gap.position.next
        | _ => gap.position⟩
      match gap.rest with
      | ':' :: rest => .ok (key, ⟨gap.position.next, rest⟩)
      | [] => .error (.noColon key (.broken .endInObject gap.position))
      | d :: _ => .error (.noColon key (.broken .colonExpected (gap.position.onto d)))
  | d :: _ =>
    if d = '\x7d' then
      .error (if afterComma then .commaClosed c.position.next else .closed c.position.next)
    else .error (.noKey c.position.next)

inductive Task where
  | value
  | after (o : Outline)

/-- Scans on with the open containers, innermost first, and answers the whole outline and the cursor
after it. Every other step takes a character, so twice the length of the text is fuel enough. -/
def scan : Nat → Task → List Open → Cursor → Outline × Cursor
  | 0, _, _, c =>
    (.broken c.position none (.broken .endInValue c.position) (.broken .endInValue c.position), c)
  | fuel + 1, .value, stack, c =>
    let c := c.skipSpace
    match c.rest with
    | '[' :: rest =>
      let inner := Cursor.skipSpace ⟨c.position.next, rest⟩
      match inner.rest with
      | ']' :: rest =>
        scan fuel (.after (.array c.position [] (.closed inner.position.next))) stack
          ⟨inner.position.next, rest⟩
      | [] => (cutOff (.array c.position [] (.endOfText false inner.position)) stack, inner)
      | _ => scan fuel .value (.list c.position [] :: stack) inner
    | '\x7b' :: rest =>
      let inner := Cursor.skipSpace ⟨c.position.next, rest⟩
      match scanKey fuel false inner with
      | .ok (key, after) => scan fuel .value (.object c.position [] key :: stack) after
      | .error (.closed p) =>
        scan fuel (.after (.object c.position [] (.closed p))) stack ⟨p, inner.rest.tail⟩
      | .error ending => (cutOff (.object c.position [] ending) stack, inner)
    | _ =>
      match scanScalar fuel c with
      | .ok (o, after) => scan fuel (.after o) stack after
      | .error o => (cutOff o stack, c)
  | _ + 1, .after o, [], c => (o, c)
  | fuel + 1, .after o, .list p items :: stack, c =>
    let c := c.skipSpace
    let close (ending : Ending) : Outline := .array p (o :: items).reverse ending
    match c.rest with
    | [] => (cutOff (close (.endOfText false c.position)) stack, c)
    | ']' :: rest =>
      scan fuel (.after (close (.closed c.position.next))) stack ⟨c.position.next, rest⟩
    | ',' :: rest =>
      let inner := Cursor.skipSpace ⟨c.position.next, rest⟩
      match inner.rest with
      | [] => (cutOff (close (.endOfText true inner.position)) stack, inner)
      | ']' :: _ => (cutOff (close (.commaClosed inner.position.next)) stack, inner)
      | _ => scan fuel .value (.list p (o :: items) :: stack) inner
    | _ => (cutOff (close (.stray c.position.next)) stack, c)
  | fuel + 1, .after o, .object p members key :: stack, c =>
    let c := c.skipSpace
    let members := (key, o, c.position) :: members
    let close (ending : Ending) : Outline := .object p members.reverse ending
    match c.rest with
    | [] => (cutOff (close (.endOfText false c.position)) stack, c)
    | '\x7d' :: rest =>
      scan fuel (.after (close (.closed c.position.next))) stack ⟨c.position.next, rest⟩
    | ',' :: rest =>
      let inner := Cursor.skipSpace ⟨c.position.next, rest⟩
      match scanKey fuel true inner with
      | .ok (key, after) => scan fuel .value (.object p members key :: stack) after
      | .error ending => (cutOff (close ending) stack, inner)
    | _ => (cutOff (close (.stray c.position.next)) stack, c)

/-- The outline of a text, and the first byte of what follows the value, if anything does. -/
structure Document where
  root : Outline
  surplus : Option Position

/-- Scans a text. -/
def Document.ofText (text : String) : Document :=
  let c := Cursor.ofText text
  let (root, after) := scan (2 * c.rest.length + 3) .value [] c
  let tail := after.skipSpace
  ⟨root, if tail.rest.isEmpty then none else some tail.position.next⟩

end SceneMarkup.Json
