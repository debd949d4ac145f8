import SceneMarkup.Emit.Look
import SceneMarkup.Emit.Property
import SceneMarkup.Markup.Indent
import SceneMarkup.Markup.Render
import SceneMarkup.Registry.Basic

/-!
# Emitting scenes

`Emitter.markup?` maps a visible node to one markup tree and an invisible one to none. Going down, the
emitter knows the layout axis of the parent and how many more levels may be emitted; at the limit a
node is replaced by a warning that names it. Nothing fails.
-/

namespace SceneMarkup

/-- How instances of components are emitted. -/
inductive InstanceMode where
  /-- as the tag of the registered component -/
  | registry
  /-- as a dashed box of the size of the instance -/
  | placeholder
  /-- as the frame that the instance is laid out as -/
  | traverse
  deriving DecidableEq, Repr

structure Options where
  flavor : Flavor
  instances : InstanceMode
  /-- nodes at this depth or deeper are replaced by a warning -/
  maxDepth : Nat
  deriving DecidableEq, Repr

def Options.standard : Options := ⟨.html, .registry, 64⟩

def Options.jsx : Options := { Options.standard with flavor := .jsx }

structure Emitter where
  registry : Registry
  theme : Theme
  options : Options

namespace Emitter

def ofRegistry (registry : Registry) : Emitter := ⟨registry, .standard, .standard⟩

def childAxis? (e : Emitter) : Node → Option Axis
  | .frame f _ => f.axis
  | .component f _ _ => if e.options.instances = .traverse then f.axis else none
  | _ => none

def emptyBox (look : Look) (title : String) : Markup := .element .div look title [.marker]

/-- What stands for a node at the depth limit. -/
def depthWarning (node : Node) : Markup :=
  emptyBox .warning ("Depth limit exceeded: " ++ node.name)

def unknownWarning (node : Node) : Markup := emptyBox .warning ("Component: " ++ node.kindLabel)

def textMarkup (e : Emitter) (run : TextRun) : Markup :=
  .element .span (e.theme.text run) none [.text (run.characters.getD "")]

/-- The dashed box that stands for an instance. -/
def footprint (e : Emitter) (f : Frame) : Markup :=
  emptyBox (e.theme.footprint f) ("Component: " ++ f.name)

def attributes (properties : List (String × Property)) : List Attribute :=
  properties.filterMap fun (key, p) => p.attribute? key

/-- The tag of a registered component, or a box that names the missing one. -/
def componentMarkup (e : Emitter) (name : String) (properties : List (String × Property)) : Markup :=
  let component := normalizeName name
  if e.registry.contains component then .component component (attributes properties)
  else .element .div .missingComponent none [.text ("Unknown component: " ++ component)]

def contentOrMarker (content : List Markup) : List Markup :=
  if content.isEmpty then [.marker] else content

def container (e : Emitter) (parent : Option Axis) (f : Frame) (content : List Markup) : Markup :=
  .element .div (e.theme.frame parent f) f.name (contentOrMarker content)

mutual

/-- The markup of a node inside a parent laid out along an axis, with so many levels left. -/
def markup? (e : Emitter) (parent : Option Axis) (levels : Nat) (node : Node) : Option Markup :=
  if !node.isVisible then none
  else match levels, node with
    | 0, node => some (depthWarning node)
    | levels + 1, .frame f children =>
      some (e.container parent f (markups e f.axis levels children))
    | _ + 1, .text run => some (e.textMarkup run)
    | levels + 1, .component f children properties =>
      match e.options.instances with
      | .registry => some (e.componentMarkup f.name properties)
      | .placeholder => some (e.footprint f)
      | .traverse => some (e.container parent f (markups e f.axis levels children))
    | _ + 1, .unknown u => some (unknownWarning (.unknown u))

def markups (e : Emitter) (parent : Option Axis) (levels : Nat) : List Node → List Markup
  | [] => []
  | node :: rest =>
    match markup? e parent levels node with
    | none => markups e parent levels rest
    | some m => m :: markups e parent levels rest

end

/-- The text of a node; `parent` only settles how a filling root is sized. -/
def emit (e : Emitter) (node : Node) (parent : Option Node) : String :=
  match e.markup? (parent.bind e.childAxis?) e.options.maxDepth node with
  | none => ""
  | some m => m.render e.options.flavor

end Emitter

end SceneMarkup
