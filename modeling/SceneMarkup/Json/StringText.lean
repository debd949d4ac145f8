import SceneMarkup.Json.Error
import SceneMarkup.Text.Quoted

/-!
# JSON strings

`scanString` goes from an opening quote to the closing one. A reader decodes the escapes and wants
every surrogate to be paired; who only skims a text wants each escape to be complete, no more.
-/

namespace SceneMarkup.Json

/-- Whether the content of a text is wanted or only its end. -/
inductive Mode where
  | read
  | skim
  deriving DecidableEq, Repr

abbrev CharScan := Except Error (Char × Cursor)

def simpleEscape? : Char → Option Char
  | '"' => some '"'
  | '\\' => some '\\'
  | '/' => some '/'
  | 'b' => some '\x08'
  | 'f' => some '\x0c'
  | 'n' => some '\n'
  | 'r' => some '\r'
  | 't' => some '\t'
  | _ => none

/-- Four hexadecimal digits. Four bytes are taken before they are looked at. -/
def scanCodeUnit (c : Cursor) : Except Error (Nat × Cursor) :=
  let refused : Except Error (Nat × Cursor) :=
    if Text.byteLength (c.rest.take 4) < 4 then
      .error (.broken .endInString (c.position.pastAll c.rest))
    else .error (.broken .badEscape (c.position.pastBytes 4 c.rest))
  match c.rest with
  | h1 :: h2 :: h3 :: h4 :: rest =>
    match Text.hexValue? h1, Text.hexValue? h2, Text.hexValue? h3, Text.hexValue? h4 with
    | some a, some b, some d, some e =>
      .ok (((16 * a + b) * 16 + d) * 16 + e, ⟨c.position.next.next.next.next, rest⟩)
    | _, _, _, _ => refused
  | _ => refused

def isLeading (n : Nat) : Bool := 0xD800 ≤ n && n ≤ 0xDBFF

def isTrailing (n : Nat) : Bool := 0xDC00 ≤ n && n ≤ 0xDFFF

/-- The second half of a surrogate pair, which must be an escape too. -/
def scanTrailing (leading : Nat) (c : Cursor) : CharScan :=
  match c.rest with
  | '\\' :: 'u' :: rest => do
    let (n, after) ← scanCodeUnit ⟨c.position.next.next, rest⟩
    if isTrailing n then
      pure (Char.ofNat (0x10000 + (leading - 0xD800) * 0x400 + (n - 0xDC00)), after)
    else throw (.broken .loneSurrogate after.position)
  | ['\\'] => throw (.broken .endInString c.position.next)
  | '\\' :: d :: _ => throw (.broken .unpairedSurrogate (c.position.next.onto d))
  | d :: _ => throw (.broken .unpairedSurrogate (c.position.onto d))
  | [] => throw (.broken .endInString c.position)

def scanEscape (mode : Mode) (c : Cursor) : CharScan :=
  match c.rest with
  | [] => throw (.broken .endInString c.position)
  | 'u' :: rest => do
    let (n, after) ← scanCodeUnit ⟨c.position.next, rest⟩
    if mode = .skim then pure ('?', after)
    else if isTrailing n then throw (.broken .loneSurrogate after.position)
    else if isLeading n then scanTrailing n after
    else pure (Char.ofNat n, after)
  | d :: rest =>
    match simpleEscape? d with
    | some e => pure (e, ⟨c.position.next, rest⟩)
    | none => throw (.broken .badEscape (c.position.onto d))

/-- The content up to the closing quote, collected in reverse. Every step takes a character, so the
length of the text is fuel enough. -/
def scanChars (mode : Mode) : Nat → List Char → Cursor → Except Error (List Char × Cursor)
  | 0, _, c => throw (.broken .endInString c.position)
  | fuel + 1, content, c =>
    match c.rest with
    | [] => throw (.broken .endInString c.position)
    | '"' :: rest => pure (content, ⟨c.position.next, rest⟩)
    | '\\' :: rest => do
      let (d, after) ← scanEscape mode ⟨c.position.next, rest⟩
      scanChars mode fuel (d :: content) after
    | d :: rest =>
      if d.toNat < 0x20 then
        throw (.broken .controlCharacter (if mode = .skim then c.position else c.position.onto d))
      else scanChars mode fuel (d :: content) ⟨c.position.past d, rest⟩

/-- The string whose opening quote is just before the cursor. -/
def scanString (mode : Mode) (fuel : Nat) (c : Cursor) : Except Error (String × Cursor) := do
  let (content, after) ← scanChars mode fuel [] c
  pure (String.ofList content.reverse, after)

end SceneMarkup.Json
