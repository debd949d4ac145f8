import SceneMarkup.Markup.Basic
import SceneMarkup.Text.Escape

/-!
# Markup as text

The flavors differ in the name of the class attribute, in how style declarations are written, and in
that braces in text start expressions in one of them. Titles and component attributes are the same.
-/

namespace SceneMarkup

inductive Flavor where
  | html
  | jsx
  deriving DecidableEq, Repr

namespace StyleProperty

def kebab : StyleProperty → String
  | width => "width"
  | height => "height"
  | backgroundColor => "background-color"
  | fontSize => "font-size"
  | lineHeight => "line-height"

def camel : StyleProperty → String
  | width => "width"
  | height => "height"
  | backgroundColor => "backgroundColor"
  | fontSize => "fontSize"
  | lineHeight => "lineHeight"

end StyleProperty

namespace Flavor

def classAttribute : Flavor → String
  | html => "class"
  | jsx => "className"

def entities : Flavor → EntityTable
  | html => .content
  | jsx => .bracedContent

end Flavor

/-- Writes an attribute after its blank, for a value that is escaped already. -/
def quotedAttribute (name value : String) : String := " " ++ name ++ "=\"" ++ value ++ "\""

namespace Declaration

def css (d : Declaration) : String := d.property.kebab ++ ":" ++ d.value ++ ";"

/-- The declaration as an entry of a style object. -/
def entry (d : Declaration) : String :=
  d.property.camel ++ ": \"" ++ EntityTable.quotedValue.escape d.value ++ "\""

end Declaration

namespace Look

def classText (flavor : Flavor) (look : Look) : String :=
  if look.classes.isEmpty then ""
  else quotedAttribute flavor.classAttribute (" ".intercalate look.classes)

def styleText (flavor : Flavor) (look : Look) : String :=
  if look.declarations.isEmpty then ""
  else match flavor with
    | .html => quotedAttribute "style" ("".intercalate (look.declarations.map Declaration.css))
    | .jsx =>
      " style=\x7b\x7b " ++ ", ".intercalate (look.declarations.map Declaration.entry) ++ " \x7d\x7d"

end Look

/-- What stands for a value after the equals sign, without its quotes or braces. -/
def AttributeValue.inner : AttributeValue → String
  | quoted text => EntityTable.quotedValue.escape text
  | expression text => text

/-- The name and the value, in quotes or, for an expression, in braces. -/
def Attribute.render (a : Attribute) : String :=
  match a.value with
  | .quoted _ => a.name ++ "=\"" ++ a.value.inner ++ "\""
  | .expression _ => a.name ++ "=\x7b" ++ a.value.inner ++ "\x7d"

def Tag.name : Tag → String
  | div => "div"
  | span => "span"

def titleText : Option String → String
  | none => ""
  | some title => quotedAttribute "title" (EntityTable.content.escape title)

namespace Markup

/-- The character reference of the zero-width space. -/
def markerText : String := "&#8203;"

def openingTag (flavor : Flavor) (tag : Tag) (look : Look) (title : Option String) : String :=
  "<" ++ tag.name ++ look.classText flavor ++ look.styleText flavor ++ titleText title ++ ">"

def closingTag (tag : Tag) : String := "</" ++ tag.name ++ ">"

theorem toList_closingTag (tag : Tag) :
    (closingTag tag).toList = '<' :: ('/' :: tag.name.toList ++ ['>']) := by
  simp [closingTag]

def componentTag (name : String) (attributes : List Attribute) : String :=
  "<" ++ name ++ "".intercalate (attributes.map fun a => " " ++ a.render) ++ " />"

mutual

def render (flavor : Flavor) : Markup → String
  | marker => markerText
  | text characters => flavor.entities.escape characters
  | element tag look title content =>
    openingTag flavor tag look title ++ renderAll flavor content ++ closingTag tag
  | component name attributes => componentTag name attributes

def renderAll (flavor : Flavor) : List Markup → String
  | [] => ""
  | m :: rest => render flavor m ++ renderAll flavor rest

end

end Markup

end SceneMarkup
