import SceneMarkup.Proofs.Emit.Attributes
import SceneMarkup.Proofs.Emit.Emission
import SceneMarkup.Proofs.Emit.Looks
import SceneMarkup.Proofs.Markup.Skeleton
import SceneMarkup.Proofs.Registry.Checked

/-!
# Emitted markup is read back as the scene

The skeleton of a scene (`Emitter.skeleton`) is what is left of its visible nodes without their
looks: one box or component for each of them, down to the depth limit. What is emitted for a visible
node shows its skeleton (`shows_skeleton`, by induction on the levels that are left), so a reader
finds it in the text (`readSkeleton_emit`).
-/

namespace SceneMarkup

namespace Node

mutual

def keys : Node → List String
  | frame _ children => keysOfAll children
  | component _ children properties => properties.map (·.1) ++ keysOfAll children
  | text _ | unknown _ => []

def keysOfAll : List Node → List String
  | [] => []
  | node :: rest => node.keys ++ keysOfAll rest

end

theorem mem_keysOfAll {key : String} {child : Node} {children : List Node}
    (hchild : child ∈ children) (hkey : key ∈ child.keys) : key ∈ keysOfAll children := by
  induction hchild with
  | head rest => exact List.mem_append_left _ hkey
  | tail node _ ih => exact List.mem_append_right _ ih

end Node

namespace Skeleton

def emptyBox (title : String) : Skeleton := .box .div title [.marker]

def container (title : String) (content : List Skeleton) : Skeleton :=
  .box .div title (if content.isEmpty then [.marker] else content)

end Skeleton

namespace Emitter

/-- A registered component with its named properties, or the name of the missing one. -/
def componentSkeleton (e : Emitter) (name : String) (properties : List (String × Property)) :
    Skeleton :=
  if e.registry.contains (normalizeName name) then
    .component (normalizeName name) (namedProperties properties)
  else .box .div none [.text ("Unknown component: " ++ normalizeName name)]

/-- The visible tree below a node, with so many levels left. -/
def skeleton (e : Emitter) : Nat → Node → Skeleton
  | 0, node => .emptyBox ("Depth limit exceeded: " ++ node.name)
  | levels + 1, .frame f children =>
    .container f.name ((children.filter (·.isVisible)).map (e.skeleton levels))
  | _ + 1, .text run => .box .span none (Markup.textSkeletons (run.characters.getD ""))
  | levels + 1, .component f children properties =>
    match e.options.instances with
    | .registry => e.componentSkeleton f.name properties
    | .placeholder => .emptyBox ("Component: " ++ f.name)
    | .traverse => .container f.name ((children.filter (·.isVisible)).map (e.skeleton levels))
  | _ + 1, .unknown u => .emptyBox ("Component: " ++ (Node.unknown u).kindLabel)

open Markup (Shows ShowsAll)

variable {e : Emitter} {flavor : Flavor}

theorem shows_emptyBox {look : Look} (hlook : look.IsReadable) (title : String) :
    Shows flavor (emptyBox look title) (.emptyBox title) := .element hlook _ .marker

theorem shows_componentMarkup (hregistry : e.registry.Checked) (name : String)
    {properties : List (String × Property)} (hkeys : ∀ p ∈ properties, UncutName p.1) :
    Shows flavor (e.componentMarkup name properties) (e.componentSkeleton name properties) := by
  unfold componentMarkup componentSkeleton
  simp only
  split
  · rename_i hcontains
    have hname := hregistry.isComponentName hcontains
    simp only [isComponentName, Bool.and_eq_true, decide_eq_true_eq] at hname
    rw [← attributes_eq]
    refine .component ⟨by simpa using hname.1, fun c => isAlphanum_of_mem_normalizeName⟩ ?_
    exact isReadable_attributes hkeys
  · have hne : "Unknown component: " ++ normalizeName name ≠ "" := by simp
    have htext : ShowsAll flavor [.text ("Unknown component: " ++ normalizeName name)]
        [.text ("Unknown component: " ++ normalizeName name)] := by
      have htext := @ShowsAll.text flavor ("Unknown component: " ++ normalizeName name)
      rwa [Markup.textSkeletons, if_neg hne] at htext
    exact .element Look.isReadable_missingComponent none htext

theorem showsAll_contentOrMarker {content : List Markup} {skeletons : List Skeleton}
    (h : List.Forall₂ (Shows flavor) content skeletons) :
    ShowsAll flavor (contentOrMarker content)
      (if skeletons.isEmpty then [.marker] else skeletons) := by
  cases h with
  | nil => exact .marker
  | cons hfirst hrest => exact .ofShows (.cons hfirst hrest)

theorem shows_container (hpalette : e.theme.palette.IsQuotable) (parent : Option Axis) (f : Frame)
    {levels : Nat} {children : List Node}
    (h : ∀ child ∈ children, child.isVisible = true →
      ∃ m, e.markup? f.axis levels child = some m ∧ m.Shows flavor (e.skeleton levels child)) :
    Shows flavor (e.container parent f (children.filterMap (e.markup? f.axis levels)))
      (.container f.name ((children.filter (·.isVisible)).map (e.skeleton levels))) := by
  refine .element (e.theme.isReadable_frame hpalette parent f) _ ?_
  have hshown : List.Forall₂ (Shows flavor) (children.filterMap (e.markup? f.axis levels))
      ((children.filter (·.isVisible)).map (e.skeleton levels)) := by
    induction children with
    | nil => exact .nil
    | cons child rest ih =>
      obtain ⟨hchild, hrest⟩ := List.forall_mem_cons.mp h
      cases hvisible : child.isVisible with
      | false =>
        rw [List.filterMap_cons_none (markup?_hidden hvisible),
          List.filter_cons_of_neg (by simp [hvisible])]
        exact ih hrest
      | true =>
        obtain ⟨m, hm, hshows⟩ := hchild hvisible
        rw [List.filterMap_cons_some hm, List.filter_cons_of_pos hvisible]
        exact .cons hshows (ih hrest)
  exact showsAll_contentOrMarker hshown

theorem shows_skeleton (hregistry : e.registry.Checked) (hpalette : e.theme.palette.IsQuotable)
    {node : Node} (hvisible : node.isVisible = true) (hkeys : ∀ key ∈ node.keys, UncutName key)
    (parent : Option Axis) (levels : Nat) :
    ∃ m, e.markup? parent levels node = some m ∧ m.Shows flavor (e.skeleton levels node) := by
  induction levels generalizing node parent with
  | zero => exact ⟨_, markup?_limit hvisible, shows_emptyBox Look.isReadable_warning _⟩
  | succ levels ih =>
    -- frames and traversed instances alike: the children have one level less, under another axis
    have hcontainer (f : Frame) (children : List Node)
        (h : ∀ key ∈ Node.keysOfAll children, UncutName key) :
        Shows flavor (e.container parent f (children.filterMap (e.markup? f.axis levels)))
          (.container f.name ((children.filter (·.isVisible)).map (e.skeleton levels))) := by
      refine shows_container hpalette parent f fun child hchild hvisible => ih hvisible ?_ f.axis
      intro key hkey
      exact h key (Node.mem_keysOfAll hchild hkey)
    cases node with
    | frame f children => exact ⟨_, markup?_frame hvisible children, hcontainer f children hkeys⟩
    | text run =>
      exact ⟨_, markup?_text hvisible, .element (e.theme.isReadable_text run) none (.text _)⟩
    | component f children properties =>
      obtain ⟨hproperties, hchildren⟩ := List.forall_mem_append.mp hkeys
      refine ⟨_, markup?_component hvisible children properties, ?_⟩
      rw [skeleton]
      cases e.options.instances with
      | registry => exact shows_componentMarkup hregistry f.name (by simpa using hproperties)
      | placeholder => exact shows_emptyBox (e.theme.isReadable_footprint f) _
      | traverse => exact hcontainer f children hchildren
    | unknown u => exact ⟨_, markup?_unknown hvisible, shows_emptyBox Look.isReadable_warning _⟩

/-- **The text of a visible node is read back as its skeleton**: no name, text or value of the scene
ends an element early, begins another one or passes for the marker. -/
theorem readSkeleton_emit (e : Emitter) (hregistry : e.registry.Checked)
    (hpalette : e.theme.palette.IsQuotable) {node : Node} (hvisible : node.isVisible = true)
    (hkeys : ∀ key ∈ node.keys, UncutName key) (parent : Option Node) :
    Reader.readSkeleton e.options.flavor (e.emit node parent) =
      some (e.skeleton e.options.maxDepth node) := by
  obtain ⟨m, hm, hshows⟩ := shows_skeleton hregistry hpalette hvisible hkeys
    (parent.bind e.childAxis?) e.options.maxDepth
  rw [emit_eq, textAt_of_some hm]
  exact hshows.readSkeleton

/-- A title with quotes and brackets, a text that looks like a closing tag, a component with a
property, a hidden frame and a node that is not known. -/
theorem readSkeleton_emit_page :
    Reader.readSkeleton .html
        ((ofRegistry (.register .empty ⟨"Button", []⟩)).emit
          (.frame (.named "1 < \"2\"")
            [.text (.reading "</span>"),
              .component (.named "Button!") [] [("is on#1:2", ⟨.boolean, .bool true⟩)],
              .frame { Frame.named "off" with visible := false } [],
              .unknown ⟨"line", true, "LINE", none⟩])
          none) =
      some (.box .div "1 < \"2\""
        [.box .span none [.text "</span>"], .component "Button" [⟨"isOn", .expression "true"⟩],
          .box .div "Component: LINE" [.marker]]) :=
  (readSkeleton_emit (ofRegistry (.register .empty ⟨"Button", []⟩))
    (.registered (d := ⟨"Button", []⟩) .empty rfl) (by decide) rfl (by decide +kernel) none).trans
    (by rfl)

end Emitter

end SceneMarkup
