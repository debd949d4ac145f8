import SceneMarkup.Text.Quoted

/-!
# Indented markup

Markup is cut between every closing `>` and an opening `<` that follows it at once (`pieces`). Each
piece becomes a line, indented by four spaces for every element that is open at its start (`indent`).
The elements are not parsed: a line opens one if it looks like an opening tag whose content goes on
in later lines (`opensElement`).
-/

namespace SceneMarkup.Markup

/-- Puts a character in front of pieces, cutting after a `>` in front of a `<`. -/
def consPiece (c : Char) : List (List Char) → List (List Char)
  | [] => [[c]]
  | line :: rest =>
    if c = '>' ∧ line.head? = some '<' then [c] :: line :: rest else (c :: line) :: rest

/-- The text cut between every `>` and `<`; there is always a piece. -/
def pieces (text : List Char) : List (List Char) := text.foldr consPiece [[]]

theorem pieces_ne_nil (text : List Char) : pieces text ≠ [] := by
  cases text with
  | nil => simp [pieces]
  | cons c rest =>
    simp only [pieces, List.foldr_cons]
    generalize rest.foldr consPiece [[]] = lines
    cases lines with
    | nil => simp [consPiece]
    | cons line more => simp only [consPiece]; split <;> simp

def startsClosing : List Char → Bool
  | '<' :: '/' :: _ => true
  | _ => false

/-- Whether a closing tag begins anywhere in a line. -/
def holdsClosing : List Char → Bool
  | [] => false
  | c :: rest => startsClosing (c :: rest) || holdsClosing rest

/-- Whether a line opens an element that is closed on a later line: it begins with a tag that is
neither closing nor a declaration, the first `>` comes after at least three bytes and not after a
slash, and no closing tag follows in the line. -/
def opensElement (line : List Char) : Bool :=
  match line with
  | '<' :: '!' :: _ => false
  | '<' :: '/' :: _ => false
  | '<' :: _ =>
    let tag := line.takeWhile (· != '>')
    tag.length < line.length && 3 ≤ Text.byteLength tag && tag.getLast? != some '/' &&
      !holdsClosing line
  | _ => false

def levelAt (level : Nat) (line : List Char) : Nat :=
  if startsClosing line then level - 1 else level

def levelAfter (level : Nat) (line : List Char) : Nat :=
  if opensElement line then levelAt level line + 1 else levelAt level line

def leveled : Nat → List (List Char) → List (Nat × List Char)
  | _, [] => []
  | level, line :: rest => (levelAt level line, line) :: leveled (levelAfter level line) rest

def indentation (level : Nat) : List Char := List.replicate (4 * level) ' '

def layOut (lines : List (Nat × List Char)) : List Char :=
  ['\n'].intercalate (lines.map fun line => indentation line.1 ++ line.2)

/-- Breaks the text at tag boundaries and indents the lines. -/
def indent (text : String) : String :=
  String.ofList (layOut (leveled 0 (pieces text.toList)))

end SceneMarkup.Markup
