/-!
# Markup trees

What a scene is written as, before a flavor is chosen: elements with classes, literal style
declarations and a title, component tags with attributes, text, and the zero-width marker that keeps
an empty container open.
-/

namespace SceneMarkup

/-- The style properties that are ever declared literally. -/
inductive StyleProperty where
  | width
  | height
  | backgroundColor
  | fontSize
  | lineHeight
  deriving DecidableEq, Repr

structure Declaration where
  property : StyleProperty
  value : String
  deriving DecidableEq, Repr

/-- Utility classes, and declarations for what no class can say. -/
structure Look where
  classes : List String
  declarations : List Declaration
  deriving DecidableEq, Repr

namespace Look

def plain : Look := ⟨[], []⟩

/-- A class; the empty one is none. -/
def ofClass (name : String) : Look := ⟨if name = "" then [] else [name], []⟩

def ofDeclaration (property : StyleProperty) (value : String) : Look := ⟨[], [⟨property, value⟩]⟩

def ofClasses (names : List String) : Look := ⟨names, []⟩

instance : Append Look where
  append a b := ⟨a.classes ++ b.classes, a.declarations ++ b.declarations⟩

def concat (looks : List Look) : Look :=
  ⟨looks.flatMap classes, looks.flatMap declarations⟩

end Look

inductive AttributeValue where
  | quoted (text : String)
  | expression (text : String)
  deriving DecidableEq, Repr

structure Attribute where
  name : String
  value : AttributeValue
  deriving DecidableEq, Repr

/-- The elements that have content. -/
inductive Tag where
  | div
  | span
  deriving DecidableEq, Repr

inductive Markup where
  | marker
  | text (characters : String)
  | element (tag : Tag) (look : Look) (title : Option String) (content : List Markup)
  /-- a self-closing component tag -/
  | component (name : String) (attributes : List Attribute)
  deriving Repr

end SceneMarkup
