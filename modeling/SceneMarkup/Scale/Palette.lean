import SceneMarkup.Decimal.Basic

/-!
# Colours and the palette

Colours have channels from 0 to 1 (`Rgb`) and are rounded to bytes (`Rgb8`). A palette names some
colours; the first entry close enough on every channel is used, else the colour itself.
-/

namespace SceneMarkup

/-- A colour with channels from 0 to 1. -/
structure Rgb where
  r : Float
  g : Float
  b : Float
  deriving DecidableEq, Repr

/-- A colour with one byte per channel. -/
structure Rgb8 where
  r : UInt8
  g : UInt8
  b : UInt8
  deriving DecidableEq, Repr

/-- A channel as a byte: a half goes up, values outside the range go to its ends, and a channel that
is no number counts as dark. -/
def Rgb.byte (channel : Float) : UInt8 :=
  if !channel.isFinite then 0
  else match Binary.ofFloat? (channel * 255) with
    | some x => if x.negative then 0 else UInt8.ofNat (min x.roundHalfUp 255)
    | none => if channel < 0 then 0 else 255

def Rgb.toRgb8 (c : Rgb) : Rgb8 := ⟨byte c.r, byte c.g, byte c.b⟩

structure Swatch where
  className : String
  color : Rgb8
  deriving DecidableEq, Repr

structure Palette where
  swatches : List Swatch
  deriving DecidableEq, Repr

/-- How a colour is written: by a class of the palette, or literally. -/
inductive ColorUtility where
  | named (className : String)
  | literal (color : Rgb8)
  deriving DecidableEq, Repr

/-- The colour in the functional form of style sheets, as in `rgb(255,0,16)`. -/
def Rgb8.css (c : Rgb8) : String :=
  "rgb(" ++ c.r.toNat.repr ++ "," ++ c.g.toNat.repr ++ "," ++ c.b.toNat.repr ++ ")"

namespace Palette

def isClose (a b : UInt8) : Bool := a.toNat ≤ b.toNat + 2 && b.toNat ≤ a.toNat + 2

def Swatch.covers (s : Swatch) (c : Rgb8) : Bool :=
  isClose s.color.r c.r && isClose s.color.g c.g && isClose s.color.b c.b

/-- The first swatch close to the colour on every channel, else the colour itself. -/
def utility (p : Palette) (c : Rgb8) : ColorUtility :=
  match p.swatches.find? (Swatch.covers · c) with
  | some s => .named s.className
  | none => .literal c

def standard : Palette where
  swatches :=
    [⟨"bg-white", 255, 255, 255⟩, ⟨"bg-gray-100", 245, 245, 245⟩, ⟨"bg-gray-200", 229, 229, 229⟩,
      ⟨"bg-gray-300", 209, 213, 219⟩, ⟨"bg-gray-400", 156, 163, 175⟩, ⟨"bg-black", 0, 0, 0⟩]

end Palette

end SceneMarkup
