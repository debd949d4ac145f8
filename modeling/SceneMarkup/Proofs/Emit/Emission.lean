import SceneMarkup.Emit.Emitter
import SceneMarkup.Proofs.Markup.Pieces

/-!
# Emission, case by case

One equation for every kind of node, at the depth limit and above it. The nodes of a list are
emitted one by one (`markups_eq_filterMap`), a node is emitted just if it is visible
(`isSome_markup?`), and what is emitted is a tag, never text alone or nothing (`isTag_of_markup?`).
-/

namespace SceneMarkup.Emitter

variable {e : Emitter} {parent : Option Axis} {levels : Nat} {node : Node}

theorem markups_eq_filterMap (e : Emitter) (parent : Option Axis) (levels : Nat)
    (nodes : List Node) :
    e.markups parent levels nodes = nodes.filterMap (e.markup? parent levels) := by
  induction nodes with
  | nil => rfl
  | cons node rest ih =>
    rw [markups, List.filterMap_cons]
    cases e.markup? parent levels node with
    | none => exact ih
    | some m => simp only [ih]

theorem markup?_hidden (h : node.isVisible = false) : e.markup? parent levels node = none := by
  cases levels <;> cases node <;> rw [markup?, h] <;> rfl

theorem markup?_limit (h : node.isVisible = true) :
    e.markup? parent 0 node = some (depthWarning node) := by
  cases node <;> rw [markup?, h] <;> rfl

theorem markup?_frame {f : Frame} (h : f.visible = true) (children : List Node) :
    e.markup? parent (levels + 1) (.frame f children) =
      some (e.container parent f (children.filterMap (e.markup? f.axis levels))) := by
  simp [markup?, Node.isVisible, h, markups_eq_filterMap]

theorem markup?_text {run : TextRun} (h : run.visible = true) :
    e.markup? parent (levels + 1) (.text run) = some (e.textMarkup run) := by
  simp [markup?, Node.isVisible, h]

theorem markup?_component {f : Frame} (h : f.visible = true) (children : List Node)
    (properties : List (String × Property)) :
    e.markup? parent (levels + 1) (.component f children properties) =
      some (match e.options.instances with
        | .registry => e.componentMarkup f.name properties
        | .placeholder => e.footprint f
        | .traverse => e.container parent f (children.filterMap (e.markup? f.axis levels))) := by
  simp only [markup?, Node.isVisible, h, markups_eq_filterMap]
  cases e.options.instances <;> rfl

theorem markup?_unknown {u : UnknownNode} (h : u.visible = true) :
    e.markup? parent (levels + 1) (.unknown u) = some (unknownWarning (.unknown u)) := by
  simp [markup?, Node.isVisible, h]

theorem isSome_markup? (e : Emitter) (parent : Option Axis) (levels : Nat) (node : Node) :
    (e.markup? parent levels node).isSome = node.isVisible := by
  cases hvisible : node.isVisible with
  | false => rw [markup?_hidden hvisible]; rfl
  | true =>
    cases levels with
    | zero => rw [markup?_limit hvisible]; rfl
    | succ levels =>
      cases node with
      | frame f children => rw [markup?_frame hvisible]; rfl
      | text run => rw [markup?_text hvisible]; rfl
      | component f children properties => rw [markup?_component hvisible]; rfl
      | unknown u => rw [markup?_unknown hvisible]; rfl

theorem isVisible_of_markup? {m : Markup} (h : e.markup? parent levels node = some m) :
    node.isVisible = true := by
  rw [← isSome_markup? e parent levels, h, Option.isSome_some]

theorem isVisible_of_not_markup? (h : e.markup? parent levels node = none) :
    node.isVisible = false := by
  rw [← isSome_markup? e parent levels, h, Option.isSome_none]

/-- As hidden nodes are emitted as nothing, it is enough to compare what is shown. -/
theorem markup?_congr_visible {e e' : Emitter} {parent parent' : Option Axis} {levels levels' : Nat}
    {a b : Node} (hvisible : a.isVisible = b.isVisible)
    (h : a.isVisible = true → b.isVisible = true →
      e.markup? parent levels a = e'.markup? parent' levels' b) :
    e.markup? parent levels a = e'.markup? parent' levels' b := by
  cases hb : b.isVisible with
  | false => rw [markup?_hidden hb, markup?_hidden (hvisible.trans hb)]
  | true => exact h (hvisible.trans hb) hb

theorem markup?_zero_congr {e e' : Emitter} {parent parent' : Option Axis} {a b : Node}
    (hname : a.name = b.name) (hvisible : a.isVisible = b.isVisible) :
    e.markup? parent 0 a = e'.markup? parent' 0 b := by
  refine markup?_congr_visible hvisible fun ha hb => ?_
  rw [markup?_limit ha, markup?_limit hb, depthWarning, depthWarning, hname]

/-- What a node is emitted as depends on the theme, the instance mode and, if instances are emitted
as components, on which names are registered. -/
theorem markup?_congr_names {e e' : Emitter} (htheme : e'.theme = e.theme)
    (hinstances : e'.options.instances = e.options.instances)
    (hnames : e.options.instances = .registry →
      ∀ name, e'.registry.contains name = e.registry.contains name)
    (parent : Option Axis) (levels : Nat) (node : Node) :
    e'.markup? parent levels node = e.markup? parent levels node := by
  -- the axis changes on the way down, so the induction is for all parents
  induction levels generalizing parent node with
  | zero => exact markup?_zero_congr rfl rfl
  | succ levels ih =>
    have hcontainer (f : Frame) (children : List Node) :
        e'.container parent f (children.filterMap (e'.markup? f.axis levels)) =
          e.container parent f (children.filterMap (e.markup? f.axis levels)) := by
      rw [funext (ih f.axis), container, container, htheme]
    refine markup?_congr_visible rfl fun hvisible _ => ?_
    cases node with
    | frame f children => rw [markup?_frame hvisible, markup?_frame hvisible, hcontainer]
    | text run =>
      rw [markup?_text hvisible, markup?_text hvisible, textMarkup, textMarkup, htheme]
    | component f children properties =>
      rw [markup?_component hvisible, markup?_component hvisible, hinstances]
      cases hmode : e.options.instances with
      | registry => simp only [componentMarkup, hnames hmode]
      | placeholder => simp only [footprint, htheme]
      | traverse => simp only [hcontainer]
    | unknown u => rw [markup?_unknown hvisible, markup?_unknown hvisible]

theorem markup?_congr {e e' : Emitter} (hregistry : e'.registry = e.registry)
    (htheme : e'.theme = e.theme) (hinstances : e'.options.instances = e.options.instances)
    (parent : Option Axis) (levels : Nat) (node : Node) :
    e'.markup? parent levels node = e.markup? parent levels node :=
  markup?_congr_names htheme hinstances (fun _ name => by rw [hregistry]) parent levels node

end SceneMarkup.Emitter

/-! ## The text of what is emitted -/

namespace SceneMarkup

def Markup.isTag : Markup → Bool
  | element .. | component .. => true
  | marker | text _ => false

namespace Markup

theorem exists_openingTag_eq (flavor : Flavor) (tag : Tag) (look : Look) (title : Option String) :
    ∃ inner, (openingTag flavor tag look title).toList = '<' :: (inner ++ ['>']) :=
  ⟨tag.name.toList ++ (look.classText flavor).toList ++ (look.styleText flavor).toList ++
    (titleText title).toList, by simp [openingTag]⟩

theorem exists_render_eq {m : Markup} (h : m.isTag = true) (flavor : Flavor) :
    ∃ inner, (m.render flavor).toList = '<' :: (inner ++ ['>']) := by
  cases m with
  | marker => cases h
  | text characters => cases h
  | element tag look title content =>
    obtain ⟨inner, hopening⟩ := exists_openingTag_eq flavor tag look title
    refine ⟨inner ++ '>' ::
      ((renderAll flavor content).toList ++ '<' :: '/' :: tag.name.toList), ?_⟩
    rw [render, String.toList_append, String.toList_append, hopening, toList_closingTag]
    simp
  | component name attributes =>
    refine ⟨name.toList ++
      ("".intercalate (attributes.map fun a => " " ++ a.render)).toList ++ [' ', '/'], ?_⟩
    simp [render, componentTag]

end Markup

theorem Markup.render_ne_empty {m : Markup} (h : m.isTag = true) (flavor : Flavor) :
    m.render flavor ≠ "" := by
  obtain ⟨inner, hrender⟩ := exists_render_eq h flavor
  intro hempty
  rw [hempty] at hrender
  cases hrender

theorem join_eq_empty_iff {texts : List String} :
    String.join texts = "" ↔ ∀ text ∈ texts, text = "" := by
  induction texts with
  | nil => simp
  | cons text rest ih => rw [String.join_cons, String.append_eq_empty_iff, ih, List.forall_mem_cons]

namespace Emitter

variable {e : Emitter} {parent : Option Axis} {levels : Nat} {node : Node}

theorem isTag_componentMarkup (e : Emitter) (name : String)
    (properties : List (String × Property)) :
    (e.componentMarkup name properties).isTag = true := by
  unfold componentMarkup
  simp only
  split <;> rfl

theorem isTag_of_markup? {m : Markup} (h : e.markup? parent levels node = some m) :
    m.isTag = true := by
  have hvisible := isVisible_of_markup? h
  cases levels with
  | zero => rw [markup?_limit hvisible] at h; cases h; rfl
  | succ levels =>
    cases node with
    | frame f children => rw [markup?_frame hvisible] at h; cases h; rfl
    | text run => rw [markup?_text hvisible] at h; cases h; rfl
    | component f children properties =>
      rw [markup?_component hvisible] at h
      cases h
      cases e.options.instances with
      | registry => exact isTag_componentMarkup e f.name properties
      | placeholder => rfl
      | traverse => rfl
    | unknown u => rw [markup?_unknown hvisible] at h; cases h; rfl

/-- What is emitted for a node, with so many levels left. -/
def textAt (e : Emitter) (parent : Option Axis) (levels : Nat) (node : Node) : String :=
  match e.markup? parent levels node with
  | none => ""
  | some m => m.render e.options.flavor

theorem textAt_of_none (h : e.markup? parent levels node = none) :
    e.textAt parent levels node = "" := by
  rw [textAt, h]

theorem textAt_of_some {m : Markup} (h : e.markup? parent levels node = some m) :
    e.textAt parent levels node = m.render e.options.flavor := by
  rw [textAt, h]

theorem emit_eq (e : Emitter) (node : Node) (parent : Option Node) :
    e.emit node parent = e.textAt (parent.bind e.childAxis?) e.options.maxDepth node := rfl

theorem textAt_eq_empty_iff : e.textAt parent levels node = "" ↔ node.isVisible = false := by
  rw [← isSome_markup? e parent levels]
  cases h : e.markup? parent levels node with
  | none => simp [textAt_of_none h]
  | some m =>
    have hne := Markup.render_ne_empty (isTag_of_markup? h) e.options.flavor
    simp [textAt_of_some h, hne]

theorem isBounded_textAt (e : Emitter) (parent : Option Axis) (levels : Nat) (node : Node) :
    Markup.IsBounded (e.textAt parent levels node).toList := by
  cases h : e.markup? parent levels node with
  | none =>
    rw [textAt_of_none h]
    exact .nil
  | some m =>
    obtain ⟨inner, hrender⟩ := Markup.exists_render_eq (isTag_of_markup? h) e.options.flavor
    rw [textAt_of_some h, hrender]
    exact Markup.isBounded_tag inner

theorem isBounded_join (e : Emitter) (parent : Option Axis) (levels : Nat) (nodes : List Node) :
    Markup.IsBounded (String.join (nodes.map (e.textAt parent levels))).toList := by
  induction nodes with
  | nil => exact .nil
  | cons node rest ih =>
    rw [List.map_cons, String.join_cons, String.toList_append]
    exact (isBounded_textAt e parent levels node).append ih

theorem join_textAt_eq_empty_iff {nodes : List Node} :
    String.join (nodes.map (e.textAt parent levels)) = "" ↔
      ∀ node ∈ nodes, node.isVisible = false := by
  simp only [join_eq_empty_iff, List.forall_mem_map, textAt_eq_empty_iff]

theorem renderAll_filterMap (e : Emitter) (parent : Option Axis) (levels : Nat)
    (nodes : List Node) :
    Markup.renderAll e.options.flavor (nodes.filterMap (e.markup? parent levels)) =
      String.join (nodes.map (e.textAt parent levels)) := by
  induction nodes with
  | nil => rfl
  | cons node rest ih =>
    rw [List.map_cons, String.join_cons, ← ih]
    cases h : e.markup? parent levels node with
    | none => rw [List.filterMap_cons_none h, textAt_of_none h, String.empty_append]
    | some m => rw [List.filterMap_cons_some h, Markup.renderAll, textAt_of_some h]

def orMarker (text : String) : String := if text = "" then Markup.markerText else text

/-- The content of a container is the text of its children, or the marker. -/
theorem renderAll_contentOrMarker (e : Emitter) (parent : Option Axis) (levels : Nat)
    (children : List Node) :
    Markup.renderAll e.options.flavor
        (contentOrMarker (children.filterMap (e.markup? parent levels))) =
      orMarker (String.join (children.map (e.textAt parent levels))) := by
  rw [← renderAll_filterMap]
  cases hcontent : children.filterMap (e.markup? parent levels) with
  | nil => simp [contentOrMarker, orMarker, Markup.renderAll, Markup.render]
  | cons m rest =>
    -- the marker is looked for in the trees, and tags are never empty texts
    obtain ⟨child, -, hm⟩ := List.mem_filterMap.mp (hcontent ▸ List.mem_cons_self)
    have hne := Markup.render_ne_empty (isTag_of_markup? hm) e.options.flavor
    rw [contentOrMarker, orMarker, if_neg (by simp), if_neg]
    simp [Markup.renderAll, hne]

end Emitter

end SceneMarkup
