import SceneMarkup.Json.Shape
import SceneMarkup.Scene.Node

/-!
# Decoding scenes

`Node.decode` turns any JSON value into a node. Nothing fails: a value that is no well-formed node
becomes an unknown node with the reason, and its siblings are decoded as ever. Names and visibility
are read first, so that they survive; then the kind, the depth, the fields of the kind, and the
children.
-/

namespace SceneMarkup

open Json (Value Shape)

/-! ## Shapes of the wire records -/

def optionalFields (shape : Shape) (keys : List String) : List (String × Json.Presence × Shape) :=
  keys.map fun key => (key, .optional, shape)

def Frame.shape : Shape :=
  .record "RawFrame"
    (optionalFields .text
        ["name", "layoutMode", "layoutWrap", "primaryAxisAlignItems", "counterAxisAlignItems",
          "layoutSizingHorizontal", "layoutSizingVertical"] ++
      optionalFields .number
        ["itemSpacing", "paddingTop", "paddingBottom", "paddingLeft", "paddingRight", "width",
          "height"])

def LineHeight.shape : Shape :=
  .record "RawLineHeight" [("unit", .optional, .text), ("value", .optional, .number)]

def TextRun.shape : Shape :=
  .record "RawText"
    [("name", .optional, .text), ("characters", .optional, .text), ("fontSize", .optional, .number),
      ("lineHeight", .optional, LineHeight.shape)]

def Property.shape : Shape :=
  .record "RawComponentProperty" [("type", .optional, .text), ("value", .defaulted, .anything)]

/-- What an instance reads beside its frame. -/
def Property.bagShape : Shape :=
  .record "RawInstance" [("componentProperties", .optional, .table Property.shape)]

def Rgb.shape : Shape :=
  .record "RawColor" [("r", .required, .number), ("g", .required, .number), ("b", .required, .number)]

def Fill.shape : Shape :=
  .record "RawFill"
    [("type", .optional, .text), ("visible", .optional, .flag), ("color", .optional, Rgb.shape)]

/-! ## Taking values of those shapes apart -/

def textField (shape : Shape) (key : String) (v : Value) : Option String :=
  (shape.field? key v).bind Value.string?

def numberField (shape : Shape) (key : String) (v : Value) : Option Float :=
  (shape.field? key v).bind Value.number?

def Rgb.ofValue? (v : Value) : Option Rgb := do
  let r ← numberField shape "r" v
  let g ← numberField shape "g" v
  let b ← numberField shape "b" v
  pure ⟨r, g, b⟩

def Fill.ofValue (v : Value) : Fill where
  kind := (textField shape "type" v).getD ""
  visible := (shape.field? "visible" v).bind Value.flag? != some false
  color := (shape.field? "color" v).bind Rgb.ofValue?

/-- The readable entries of a list of fills; anything but a list has none. -/
def Fill.listOf : Option Value → List Fill
  | some (.array items) =>
    items.filterMap fun v => if (shape.mismatch? v).isNone then some (ofValue v) else none
  | _ => []

def LineHeight.ofValue (v : Value) : LineHeight where
  unit := (textField shape "unit" v).bind LineUnit.ofToken?
  value := numberField shape "value" v

def Frame.ofValue (visible : Bool) (v : Value) : Frame :=
  let text (key : String) := textField shape key v
  let number (key : String) := numberField shape key v
  { name := (text "name").getD ""
    visible
    axis := (text "layoutMode").bind Axis.ofToken?
    wrap := .ofToken (text "layoutWrap")
    itemSpacing := number "itemSpacing"
    justify := (text "primaryAxisAlignItems").bind Justify.ofToken?
    align := (text "counterAxisAlignItems").bind Align.ofToken?
    padding :=
      ⟨number "paddingTop", number "paddingBottom", number "paddingLeft", number "paddingRight"⟩
    horizontal := (text "layoutSizingHorizontal").bind Sizing.ofToken?
    vertical := (text "layoutSizingVertical").bind Sizing.ofToken?
    width := number "width"
    height := number "height"
    fills := Fill.listOf (v.member? "fills") }

def TextRun.ofValue (visible : Bool) (v : Value) : TextRun where
  name := (textField shape "name" v).getD ""
  visible
  characters := textField shape "characters" v
  fontSize := numberField shape "fontSize" v
  lineHeight := match shape.field? "lineHeight" v with
    | none | some .null => none
    | some h => some (.ofValue h)

def Property.ofValue (v : Value) : Property where
  kind := .ofToken (textField shape "type" v)
  value := (shape.field? "value" v).getD .null

/-- The property bag of an instance, in the order of the document. -/
def Property.bagOf (v : Value) : List (String × Property) :=
  match v.member? "componentProperties" with
  | some (.object members) => members.map fun m => (m.1, ofValue m.2)
  | _ => []

/-! ## Nodes -/

inductive NodeKind where
  | frame
  | text
  | component
  deriving DecidableEq, Repr

def NodeKind.ofToken? : String → Option NodeKind
  | "FRAME" => some frame
  | "TEXT" => some text
  | "INSTANCE" => some component
  | "InstanceNode" => some component
  | _ => none

/-- The kind as faults name it. -/
def NodeKind.label : NodeKind → String
  | frame => "FRAME"
  | text => "TEXT"
  | component => "INSTANCE"

def shapeFault? (kind : NodeKind) (shape : Shape) (v : Value) : Option DecodeFault :=
  (shape.mismatch? v).map fun m => .invalidField kind.label m.message

/-- The values of the children; `none` if there is something else in their place. -/
def childValues? (v : Value) : Option (List Value) :=
  match v.member? "children" with
  | none | some .null => some []
  | some (.array items) => some items
  | some _ => none

def childrenFault? (v : Value) : Option DecodeFault :=
  if (childValues? v).isNone then some .invalidChildren else none

/-- The first fault of an object that is read as a node of a kind. -/
def NodeKind.fault? (kind : NodeKind) (v : Value) : Option DecodeFault :=
  match kind with
  | frame => (shapeFault? kind Frame.shape v).or (childrenFault? v)
  | text => shapeFault? kind TextRun.shape v
  | component =>
    ((shapeFault? kind Frame.shape v).or (childrenFault? v)).or
      (shapeFault? kind Property.bagShape v)

/-- The name of a node of any kind; empty if there is none. -/
def nodeName (v : Value) : String := ((v.member? "name").bind Value.string?).getD ""

/-- Whether a node is shown, which it is unless it says no; `none` if it says anything else. -/
def nodeVisible? (v : Value) : Option Bool :=
  match v.member? "visible" with
  | none | some .null => some true
  | some (.bool b) => some b
  | some _ => none

/-- Decodes a value that may be nested `levels` deep. -/
def Node.decode : Nat → Value → Node
  | levels, .object members =>
    let v : Value := .object members
    let name := nodeName v
    let kind := (v.member? "type").bind Value.string?
    match nodeVisible? v, kind with
    | none, _ => .unknown ⟨name, true, kind, some .invalidVisibility⟩
    | some visible, none => .unknown ⟨name, visible, none, some .missingType⟩
    | some visible, some token =>
      match levels with
      | 0 => .unknown ⟨name, visible, some token, some .tooDeep⟩
      | levels + 1 =>
        match NodeKind.ofToken? token with
        | none => .unknown ⟨name, visible, some token, none⟩
        | some nodeKind =>
          match nodeKind.fault? v with
          | some fault => .unknown ⟨name, visible, some token, some fault⟩
          | none =>
            let children := ((childValues? v).getD []).map (Node.decode levels)
            match nodeKind with
            | .frame => .frame (.ofValue visible v) children
            | .text => .text (.ofValue visible v)
            | .component => .component (.ofValue visible v) children (Property.bagOf v)
  | _, _ => .unknown ⟨"", true, none, some .notAnObject⟩

def Node.ofValue (v : Value) : Node := .decode maxSceneDepth v

end SceneMarkup
