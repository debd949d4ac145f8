/-!
# Character entities

An `EntityTable` lists the characters that may not stand for themselves in some place of a markup
text, each with the entity written for it. Content and titles escape everything that could end a tag
or a quoted value (`EntityTable.content`), attribute values only what could end the value
(`EntityTable.quotedValue`); content read as an expression language also escapes its braces.
-/

namespace SceneMarkup

/-- The characters to be escaped, each with its entity. -/
abbrev EntityTable := List (Char × String)

namespace EntityTable

def encodeChar (table : EntityTable) (c : Char) : List Char :=
  match table.lookup c with
  | some entity => entity.toList
  | none => [c]

def encode (table : EntityTable) (text : List Char) : List Char :=
  text.flatMap table.encodeChar

@[simp] theorem encode_nil (table : EntityTable) : table.encode [] = [] := rfl

@[simp] theorem encode_cons (table : EntityTable) (c : Char) (text : List Char) :
    table.encode (c :: text) = table.encodeChar c ++ table.encode text := rfl

theorem encode_append (table : EntityTable) (a b : List Char) :
    table.encode (a ++ b) = table.encode a ++ table.encode b := List.flatMap_append

def escape (table : EntityTable) (text : String) : String :=
  String.ofList (table.encode text.toList)

/-- For double-quoted attribute values. -/
def quotedValue : EntityTable := [('&', "&amp;"), ('"', "&quot;")]

/-- For content and titles. -/
def content : EntityTable :=
  [('&', "&amp;"), ('<', "&lt;"), ('>', "&gt;"), ('"', "&quot;"), ('\'', "&#39;")]

/-- For content in which braces would start and end an expression. -/
def bracedContent : EntityTable := content ++ [('\x7b', "&#123;"), ('\x7d', "&#125;")]

end EntityTable

end SceneMarkup
