/-!
# Positions in a text

A position counts lines from 1 and the bytes of the current line. It is the position of the byte that
was read last: at the start of a line, of the line break before it, the column is 0.
-/

namespace SceneMarkup.Json

structure Position where
  line : Nat
  column : Nat
  deriving DecidableEq, Repr, Inhabited

namespace Position

def start : Position := ⟨1, 0⟩

def past (p : Position) (c : Char) : Position :=
  if c = '\n' then ⟨p.line + 1, 0⟩ else ⟨p.line, p.column + c.utf8Size⟩

/-- At the first byte of the character that comes next. -/
def onto (p : Position) (c : Char) : Position :=
  if c = '\n' then ⟨p.line + 1, 0⟩ else ⟨p.line, p.column + 1⟩

/-- At the next byte, which is no line break. -/
def next (p : Position) : Position := ⟨p.line, p.column + 1⟩

/-- Before the last `n` bytes, which are all in the current line. -/
def back (p : Position) (n : Nat) : Position := ⟨p.line, p.column - n⟩

def pastAll (p : Position) (text : List Char) : Position := text.foldl past p

/-- At the `n`-th byte of a text. -/
def pastBytes (p : Position) : Nat → List Char → Position
  | 0, _ => p
  | _, [] => p
  | n + 1, c :: rest =>
    if c.utf8Size ≤ n + 1 then pastBytes (p.past c) (n + 1 - c.utf8Size) rest
    else ⟨p.line, p.column + (n + 1)⟩

end Position

structure Cursor where
  position : Position
  rest : List Char
  deriving DecidableEq, Repr

namespace Cursor

def ofText (text : String) : Cursor := ⟨.start, text.toList⟩

/-- The four characters that may stand between tokens. -/
def isSpace (c : Char) : Bool := c == ' ' || c == '\t' || c == '\n' || c == '\r'

def skipSpace (c : Cursor) : Cursor :=
  ⟨c.position.pastAll (c.rest.takeWhile isSpace), c.rest.dropWhile isSpace⟩

end Cursor

end SceneMarkup.Json
