import SceneMarkup.Json.Value
import SceneMarkup.Scale.Palette
import SceneMarkup.Scene.Token

/-!
# Scene trees

A scene is a tree of nodes: frames that lay out children, runs of text, instances of components, and
nodes that are not known or could not be decoded, which keep their name and whether they are visible.
-/

namespace SceneMarkup

structure Fill where
  kind : String
  visible : Bool
  color : Option Rgb
  deriving DecidableEq, Repr

/-- The colour of a visible solid fill. -/
def Fill.solidColor? (f : Fill) : Option Rgb :=
  if f.kind = "SOLID" ∧ f.visible then f.color else none

structure Padding where
  top : Option Float
  bottom : Option Float
  left : Option Float
  right : Option Float
  deriving DecidableEq, Repr

def Padding.none : Padding := ⟨.none, .none, .none, .none⟩

def Padding.uniform (px : Float) : Padding := ⟨px, px, px, px⟩

structure LineHeight where
  unit : Option LineUnit
  value : Option Float
  deriving DecidableEq, Repr

/-- The line height in pixels, if it is given in pixels. -/
def LineHeight.pixels? (h : LineHeight) : Option Float :=
  if h.unit = some .pixels then h.value else none

structure Property where
  kind : PropertyKind
  value : Json.Value
  deriving Repr

structure Frame where
  name : String
  visible : Bool
  axis : Option Axis
  wrap : Wrap
  itemSpacing : Option Float
  justify : Option Justify
  align : Option Align
  padding : Padding
  horizontal : Option Sizing
  vertical : Option Sizing
  width : Option Float
  height : Option Float
  /-- in stacking order -/
  fills : List Fill
  deriving DecidableEq, Repr

/-- A visible frame without layout. -/
def Frame.named (name : String) : Frame where
  name
  visible := true
  axis := none
  wrap := .noWrap
  itemSpacing := none
  justify := none
  align := none
  padding := .none
  horizontal := none
  vertical := none
  width := none
  height := none
  fills := []

structure TextRun where
  name : String
  visible : Bool
  characters : Option String
  fontSize : Option Float
  lineHeight : Option LineHeight
  deriving DecidableEq, Repr

/-- A visible run of text that is named as it reads. -/
def TextRun.reading (characters : String) : TextRun :=
  ⟨characters, true, characters, none, none⟩

/-- The deepest nesting that is decoded; the root is at depth 0. -/
def maxSceneDepth : Nat := 256

inductive DecodeFault where
  | notAnObject
  | missingType
  | invalidVisibility
  | invalidField (kind message : String)
  | invalidChildren
  | tooDeep
  deriving DecidableEq, Repr

def DecodeFault.message : DecodeFault → String
  | notAnObject => "node is not a JSON object"
  | missingType => "node has no string `type` field"
  | invalidVisibility => "`visible` must be a boolean"
  | invalidField kind message => "invalid " ++ kind ++ " node: " ++ message
  | invalidChildren => "`children` must be an array"
  | tooDeep => "maximum nesting depth (" ++ maxSceneDepth.repr ++ ") exceeded while decoding"

/-- A node of an unrecognised kind, or one that could not be decoded. -/
structure UnknownNode where
  name : String
  visible : Bool
  /-- the kind as the document spells it, if it does -/
  kind : Option String
  reason : Option DecodeFault
  deriving DecidableEq, Repr

inductive Node where
  | frame (frame : Frame) (children : List Node)
  | text (run : TextRun)
  /-- an instance of a component, with the frame it would be laid out as -/
  | component (frame : Frame) (children : List Node) (properties : List (String × Property))
  | unknown (node : UnknownNode)
  deriving Repr

namespace Node

def name : Node → String
  | frame f _ | component f _ _ => f.name
  | text run => run.name
  | unknown node => node.name

def isVisible : Node → Bool
  | frame f _ | component f _ _ => f.visible
  | text run => run.visible
  | unknown node => node.visible

def kindLabel : Node → String
  | frame _ _ => "FRAME"
  | text _ => "TEXT"
  | component _ _ _ => "INSTANCE"
  | unknown node => node.kind.getD "Unknown"

def children : Node → List Node
  | frame _ cs | component _ cs _ => cs
  | text _ | unknown _ => []

/-- Changes the frame of a frame or an instance. -/
def mapFrame (f : Frame → Frame) : Node → Node
  | frame fr cs => frame (f fr) cs
  | component fr cs ps => component (f fr) cs ps
  | node => node

/-- Changes the text run of a text. -/
def mapText (f : TextRun → TextRun) : Node → Node
  | text run => text (f run)
  | node => node

def setVisible (visible : Bool) : Node → Node
  | frame fr cs => frame { fr with visible } cs
  | component fr cs ps => component { fr with visible } cs ps
  | text run => text { run with visible }
  | unknown node => unknown { node with visible }

def appendChild (node child : Node) : Node :=
  match node with
  | frame fr cs => frame fr (cs ++ [child])
  | component fr cs ps => component fr (cs ++ [child]) ps
  | node => node

/-- Sets a property of an instance; a repeated key keeps its place. -/
def putProperty (key : String) (property : Property) : Node → Node
  | component fr cs ps => component fr cs (Json.putMember key property ps)
  | node => node

end Node

end SceneMarkup
