import SceneMarkup.Markup.Render
import SceneMarkup.Unicode.Words

/-!
# A reader of markup

`Reader.step` takes one character of a markup text at a time: content, opening tags of the elements
with content, their closing tags, and component tags, which close themselves. Attribute values stand
in double quotes or in braces; braces nest, and count only outside of the quotes between them. A
text is read (`Reader.read`) if no step fails and it ends in content with every element closed.
-/

namespace SceneMarkup.Reader

/-- The value of an attribute as it stands in a tag, without its quotes or its outer braces. -/
inductive RawValue where
  | quoted (text : List Char)
  | braced (text : List Char)
  deriving DecidableEq, Repr

structure RawAttribute where
  name : List Char
  value : RawValue
  deriving DecidableEq, Repr

/-- What a reader finds in a text; entities are not decoded yet. -/
inductive Item where
  | text (characters : List Char)
  | element (tag : Tag) (attributes : List RawAttribute) (content : List Item)
  | component (name : List Char) (attributes : List RawAttribute)
  deriving Repr

structure Head where
  name : List Char
  attributes : List RawAttribute
  deriving DecidableEq, Repr

def Head.add (head : Head) (key : List Char) (value : RawValue) : Head :=
  ⟨head.name, head.attributes ++ [⟨key, value⟩]⟩

/-- How many braces are open inside a braced value, and whether a quoted text is. -/
structure Nesting where
  depth : Nat
  inQuotes : Bool
  deriving DecidableEq, Repr

def Nesting.none : Nesting := ⟨0, false⟩

def Nesting.next (n : Nesting) (c : Char) : Option Nesting :=
  if c = '"' then some ⟨n.depth, !n.inQuotes⟩
  else if n.inQuotes then some n
  else if c = '\x7b' then some ⟨n.depth + 1, false⟩
  else if c = '\x7d' then
    match n.depth with
    | 0 => Option.none
    | depth + 1 => some ⟨depth, false⟩
  else some n

/-- Where a reader stands. -/
inductive Place where
  | content
  /-- after the bracket that begins a tag -/
  | bracket
  | closing (name : List Char)
  | name (name : List Char)
  | inside (head : Head)
  | key (head : Head) (key : List Char)
  | assigned (head : Head) (key : List Char)
  | quoted (head : Head) (key text : List Char)
  | braced (head : Head) (key : List Char) (nesting : Nesting) (text : List Char)
  /-- after the slash of a tag that closes itself -/
  | slash (head : Head)
  deriving DecidableEq, Repr

/-- An element whose closing tag is due, and what was read before it in its parent. -/
structure OpenElement where
  tag : Tag
  attributes : List RawAttribute
  before : List Item

structure State where
  /-- innermost first -/
  opened : List OpenElement
  items : List Item
  place : Place

def start : State := ⟨[], [], .content⟩

/-- The characters that attribute names are cut at. -/
def delimiters : List Char := ['"', '=', '<', '>', '/', '\x7b', '\x7d']

def isKeyChar (c : Char) : Bool := !Unicode.isBlank c && !delimiters.contains c

def isContentChar : Flavor → Char → Bool
  | .html, c => c != '<' && c != '>'
  | .jsx, c => c != '<' && c != '>' && c != '\x7b' && c != '\x7d'

def addChar (items : List Item) (c : Char) : List Item :=
  match items.getLast? with
  | some (.text characters) => items.dropLast ++ [.text (characters ++ [c])]
  | _ => items ++ [.text [c]]

def tagOfName? (name : List Char) : Option Tag :=
  [Tag.div, Tag.span].find? fun tag => tag.name.toList == name

namespace State

def enter (s : State) (head : Head) : Option State :=
  (tagOfName? head.name).map fun tag => ⟨⟨tag, head.attributes, s.items⟩ :: s.opened, [], .content⟩

/-- Leaves the innermost element, if it is the one that is closed. -/
def leave (s : State) (name : List Char) : Option State :=
  match s.opened with
  | [] => none
  | o :: opened =>
    if o.tag.name.toList = name then
      some ⟨opened, o.before ++ [.element o.tag o.attributes s.items], .content⟩
    else none

def delimit (s : State) (head : Head) (c : Char) : Option State :=
  if Unicode.isBlank c then some { s with place := .inside head }
  else if c = '>' then s.enter head
  else if c = '/' then some { s with place := .slash head }
  else none

end State

def step (flavor : Flavor) (s : State) (c : Char) : Option State :=
  match s.place with
  | .content =>
    if c = '<' then some { s with place := .bracket }
    else if isContentChar flavor c then some { s with items := addChar s.items c }
    else none
  | .bracket =>
    if c = '/' then some { s with place := .closing [] }
    else if c.isAlphanum then some { s with place := .name [c] }
    else none
  | .closing name =>
    if c.isAlphanum then some { s with place := .closing (name ++ [c]) }
    else if c = '>' then s.leave name
    else none
  | .name name =>
    if c.isAlphanum then some { s with place := .name (name ++ [c]) }
    else s.delimit ⟨name, []⟩ c
  | .inside head =>
    if isKeyChar c then some { s with place := .key head [c] } else s.delimit head c
  | .key head key =>
    if isKeyChar c then some { s with place := .key head (key ++ [c]) }
    else if c = '=' then some { s with place := .assigned head key }
    else none
  | .assigned head key =>
    if c = '"' then some { s with place := .quoted head key [] }
    else if c = '\x7b' then some { s with place := .braced head key .none [] }
    else none
  | .quoted head key text =>
    if c = '"' then some { s with place := .inside (head.add key (.quoted text)) }
    else some { s with place := .quoted head key (text ++ [c]) }
  | .braced head key nesting text =>
    match nesting.next c with
    | none => some { s with place := .inside (head.add key (.braced text)) }
    | some nesting => some { s with place := .braced head key nesting (text ++ [c]) }
  | .slash head =>
    if c = '>' then some ⟨s.opened, s.items ++ [.component head.name head.attributes], .content⟩
    else none

def run (flavor : Flavor) (s : State) (text : List Char) : Option State :=
  text.foldlM (step flavor) s

def State.result? (s : State) : Option (List Item) :=
  match s.opened, s.place with
  | [], .content => some s.items
  | _, _ => none

def read (flavor : Flavor) (text : String) : Option (List Item) :=
  (run flavor start text.toList).bind State.result?

end SceneMarkup.Reader
