/-!
# Tokens of a scene

The closed sets of words that scene documents use for layout, alignment and sizing. A word outside
its set counts as absent.
-/

namespace SceneMarkup

/-- The axis along which a frame lays out its children. -/
inductive Axis where
  | horizontal
  | vertical
  deriving DecidableEq, Repr

def Axis.ofToken? : String → Option Axis
  | "HORIZONTAL" => some horizontal
  | "VERTICAL" => some vertical
  | _ => none

/-- Whether children go on in a new line when one is full. -/
inductive Wrap where
  | wrap
  | noWrap
  deriving DecidableEq, Repr

/-- Anything but `WRAP`, absence too, means no wrapping. -/
def Wrap.ofToken : Option String → Wrap
  | some "WRAP" => wrap
  | _ => noWrap

inductive Justify where
  | min
  | center
  | max
  | spaceBetween
  | spaceAround
  | spaceEvenly
  deriving DecidableEq, Repr

def Justify.ofToken? : String → Option Justify
  | "MIN" => some min
  | "CENTER" => some center
  | "MAX" => some max
  | "SPACE_BETWEEN" => some spaceBetween
  | "SPACE_AROUND" => some spaceAround
  | "SPACE_EVENLY" => some spaceEvenly
  | _ => none

inductive Align where
  | min
  | center
  | max
  | baseline
  | stretch
  deriving DecidableEq, Repr

def Align.ofToken? : String → Option Align
  | "MIN" => some min
  | "CENTER" => some center
  | "MAX" => some max
  | "BASELINE" => some baseline
  | "STRETCH" => some stretch
  | _ => none

inductive Sizing where
  /-- take the space there is -/
  | fill
  /-- be as large as the content -/
  | hug
  /-- be exactly as large as given -/
  | fixed
  deriving DecidableEq, Repr

def Sizing.ofToken? : String → Option Sizing
  | "FILL" => some fill
  | "HUG" => some hug
  | "FIXED" => some fixed
  | _ => none

inductive LineUnit where
  | pixels
  | percent
  | auto
  deriving DecidableEq, Repr

def LineUnit.ofToken? : String → Option LineUnit
  | "PIXELS" => some pixels
  | "PERCENT" => some percent
  | "AUTO" => some auto
  | _ => none

inductive PropertyKind where
  | text
  | boolean
  | number
  /-- any other declared type, or none -/
  | other (token : Option String)
  deriving DecidableEq, Repr

namespace PropertyKind

def ofToken : Option String → PropertyKind
  | some "TEXT" => text
  | some "BOOLEAN" => boolean
  | some "NUMBER" => number
  | token => other token

/-- The type as the document spells it. -/
def token? : PropertyKind → Option String
  | text => some "TEXT"
  | boolean => some "BOOLEAN"
  | number => some "NUMBER"
  | other token => token

end PropertyKind

end SceneMarkup
