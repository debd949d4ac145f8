import SceneMarkup.Markup.Basic
import SceneMarkup.Scale.Spacing
import SceneMarkup.Scene.Node

/-!
# Looks of nodes

The classes and declarations of frames, texts and placeholders. A size is written as a class of the
scale if it fits, else as a declaration; sizes that are no numbers count as absent.
-/

namespace SceneMarkup

structure Theme where
  spacing : Spacing
  palette : Palette
  deriving DecidableEq, Repr

def Theme.standard : Theme := ⟨.standard, .standard⟩

/-- The look of a size: `family-key` on the scale, else the size itself. -/
def Theme.scaled (theme : Theme) (family : String) (property : StyleProperty) (px : Float) : Look :=
  if !px.isFinite then .plain
  else match theme.spacing.fit? px with
    | some found => .ofClass (family ++ "-" ++ found.bucket.key.repr)
    | none => .ofDeclaration property (Pixels.text px ++ "px")

/-- The look of a size that may be absent. -/
def Theme.scaled? (theme : Theme) (family : String) (property : StyleProperty) :
    Option Float → Look
  | none => .plain
  | some px => theme.scaled family property px

/-- A gap or padding that may be absent. -/
def spacingLook (family : String) (px : Option Float) : Look :=
  match px.bind (Pixels.spacingClass? family) with
  | some name => .ofClass name
  | none => .plain

def Axis.look : Option Axis → Look
  | some .horizontal => .ofClasses ["flex", "flex-row"]
  | some .vertical => .ofClasses ["flex", "flex-col"]
  | none => .plain

def Wrap.look : Wrap → Look
  | wrap => .ofClass "flex-wrap"
  | noWrap => .ofClass "flex-nowrap"

def Justify.className : Justify → String
  | min => "justify-start"
  | center => "justify-center"
  | max => "justify-end"
  | spaceBetween => "justify-between"
  | spaceAround => "justify-around"
  | spaceEvenly => "justify-evenly"

def Align.className : Align → String
  | min => "items-start"
  | center => "items-center"
  | max => "items-end"
  | baseline => "items-baseline"
  | stretch => "items-stretch"

def classLook {α : Type} (name : α → String) : Option α → Look
  | none => .plain
  | some a => .ofClass (name a)

inductive Dimension where
  | width
  | height
  deriving DecidableEq, Repr

namespace Dimension

def family : Dimension → String
  | width => "w"
  | height => "h"

def property : Dimension → StyleProperty
  | width => .width
  | height => .height

/-- The layout axis along which a filling frame grows instead of stretching. -/
def axis : Dimension → Axis
  | width => .horizontal
  | height => .vertical

end Dimension

/-- The look of a dimension, given the layout axis of the parent. -/
def Theme.sizing (theme : Theme) (parent : Option Axis) (dimension : Dimension)
    (sizing : Option Sizing) (px : Option Float) : Look :=
  match sizing with
  | none => .plain
  | some .fill =>
    if parent = some dimension.axis then .ofClass "flex-1" else .ofClass (dimension.family ++ "-full")
  | some .hug => .ofClass (dimension.family ++ "-auto")
  | some .fixed => theme.scaled? dimension.family dimension.property px

/-- The colour of the first visible solid fill. -/
def Frame.background? (f : Frame) : Option Rgb := f.fills.findSome? Fill.solidColor?

def Theme.background (theme : Theme) : Option Rgb → Look
  | none => .plain
  | some color =>
    match theme.palette.utility color.toRgb8 with
    | .named className => .ofClass className
    | .literal c => .ofDeclaration .backgroundColor c.css

def Theme.frame (theme : Theme) (parent : Option Axis) (f : Frame) : Look :=
  .concat
    [Axis.look f.axis, f.wrap.look, spacingLook "gap" f.itemSpacing,
      classLook Justify.className f.justify, classLook Align.className f.align,
      spacingLook "pt" f.padding.top, spacingLook "pb" f.padding.bottom,
      spacingLook "pl" f.padding.left, spacingLook "pr" f.padding.right,
      theme.sizing parent .width f.horizontal f.width,
      theme.sizing parent .height f.vertical f.height, theme.background f.background?]

def Theme.text (theme : Theme) (run : TextRun) : Look :=
  .concat
    [theme.scaled? "text" .fontSize run.fontSize,
      theme.scaled? "leading" .lineHeight (run.lineHeight.bind LineHeight.pixels?)]

def Theme.footprint (theme : Theme) (f : Frame) : Look :=
  .concat
    [.ofClasses
      ["bg-yellow-100", "border", "border-dashed", "border-yellow-400", "text-yellow-800", "flex",
        "items-center", "justify-center"],
      theme.scaled? "w" .width f.width, theme.scaled? "h" .height f.height]

def Look.warning : Look :=
  .ofClasses
    ["bg-gray-200", "text-xs", "p-2", "border", "border-dashed", "border-gray-400"]

def Look.missingComponent : Look := .ofClasses ["component-placeholder"]

end SceneMarkup
