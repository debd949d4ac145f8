import SceneMarkup.Proofs.Emit.Attributes
import SceneMarkup.Proofs.Emit.Elements
import SceneMarkup.Proofs.Emit.Levels
import SceneMarkup.Proofs.Markup.Markers
import SceneMarkup.Proofs.Registry.Checked

/-!
# Every marker stands for a node

The nodes that are reached from a root (`Emitter.reached`), each with the levels left at it, are
those that the emitter comes to look at. A reached node is marked (`Emitter.isMarked`) if it is
shown without any content. The text of a node holds as many markers as marked nodes are reached
(`markerCount_textAt`, by induction on the levels that are left): no name, text, key or value brings
one in, and none is made where two parts of the text meet.
-/

namespace SceneMarkup

open Markup (markerCount Unmarked)

/-! ## Looks -/

def Palette.IsUnmarked (p : Palette) : Prop :=
  ∀ s ∈ p.swatches, ¬ Markup.markerText.toList <:+: s.className.toList

instance (p : Palette) : Decidable p.IsUnmarked := inferInstanceAs (Decidable (∀ _ ∈ _, _))

theorem Look.Lacks.isUnmarked {look : Look} (h : look.Lacks '#') : look.IsUnmarked where
  classes := fun name hname => Markup.markerCount_of_not_mem (by decide) (h.classes name hname)
  values := h.values

theorem Theme.markerCount_background {theme : Theme} (h : theme.palette.IsUnmarked)
    (color : Option Rgb) :
    ∀ name ∈ (theme.background color).classes, markerCount name.toList = 0 := by
  cases color with
  | none => exact List.forall_mem_nil _
  | some color =>
    simp only [Theme.background, Palette.utility]
    cases hfind : theme.palette.swatches.find? (Palette.Swatch.covers · color.toRgb8) with
    | none => exact List.forall_mem_nil _
    | some s =>
      have hname : markerCount s.className.toList = 0 :=
        Text.occurrences_eq_zero_iff.mpr (h s (List.mem_of_find?_eq_some hfind))
      simp only [Look.ofClass]
      split
      · exact List.forall_mem_nil _
      · exact List.forall_mem_singleton.mpr hname

theorem Theme.isUnmarked_frame {theme : Theme} (h : theme.palette.IsUnmarked)
    (parent : Option Axis) (f : Frame) : (theme.frame parent f).IsUnmarked where
  classes := by
    rw [Theme.frame_eq]
    intro name hname
    obtain ⟨look, hlook, hmem⟩ := List.mem_flatMap.mp hname
    rcases List.mem_append.mp hlook with hlayout | hbackground
    · exact (theme.lacks_layout (by decide) parent f look hlayout).isUnmarked.classes name hmem
    · obtain rfl := List.mem_singleton.mp hbackground
      exact theme.markerCount_background h _ name hmem
  values := theme.not_mem_values_frame (by decide) parent f

/-! ## Component tags -/

theorem AttributeValue.markerCount_inner (p : Property) :
    markerCount p.attributeValue.inner.toList = 0 := by
  cases hvalue : p.attributeValue with
  | quoted text =>
    rw [AttributeValue.inner, EntityTable.escape, String.toList_ofList]
    exact Markup.markerCount_quotedValue _
  | expression text =>
    have hfigures := Property.figures_attributeValue hvalue
    exact Markup.markerCount_of_not_mem (c := '#') (by decide) (hfigures.not_mem (by decide))

/-- A key is cut before its first `#`, so no name of an attribute is the beginning of a marker. -/
theorem unmarked_attribute (key : String) (p : Property) :
    Unmarked (" " ++ (Attribute.mk (propName key) p.attributeValue).render).toList := by
  have hname : markerCount (propName key).toList = 0 :=
    Markup.markerCount_of_not_mem (by decide) (hash_not_mem_propName key)
  have hdelimiters : p.attributeValue.delimiters.1 ≠ '&' ∧
      p.attributeValue.delimiters.2 ∉ Markup.markerText.toList := by
    cases p.attributeValue with
    | quoted text => exact ⟨show '"' ≠ '&' by decide, show '"' ∉ Markup.markerText.toList by decide⟩
    | expression text =>
      exact ⟨show '\x7b' ≠ '&' by decide, show '\x7d' ∉ Markup.markerText.toList by decide⟩
  have hstart : Unmarked ((propName key).toList ++ ['=']) := .closed (by decide) hname
  have hvalue : Unmarked (p.attributeValue.inner.toList ++ [p.attributeValue.delimiters.2]) :=
    .closed hdelimiters.2 (AttributeValue.markerCount_inner p)
  rw [String.toList_append, Attribute.toList_render]
  simpa using Unmarked.cons (c := ' ') (by decide) (hstart.append (.cons hdelimiters.1 hvalue))

theorem unmarked_attributeText (properties : List (String × Property)) :
    Unmarked (Markup.attributeText (Emitter.attributes properties)) := by
  rw [attributes_eq, namedProperties]
  induction properties.filter fun p => propName p.1 ≠ "" with
  | nil => exact .nil
  | cons p rest ih =>
    rw [List.map_cons, Markup.attributeText_cons]
    exact (unmarked_attribute p.1 p.2).append ih

namespace Emitter

variable {e : Emitter}

/-! ## Elements without containers -/

theorem markerCount_text {look : Look} (h : look.IsUnmarked) (flavor : Flavor) (tag : Tag)
    (title : Option String) (characters : String) :
    markerCount ((Markup.element tag look title [.text characters]).render flavor).toList = 0 := by
  have hcontent : Markup.renderAll flavor [.text characters] =
      flavor.entities.escape characters := by
    simp [Markup.renderAll, Markup.render]
  rw [Markup.render, Markup.markerCount_element h, hcontent, EntityTable.escape,
    String.toList_ofList, Markup.markerCount_entities]

theorem markerCount_emptyBox {look : Look} (h : look.IsUnmarked) (flavor : Flavor)
    (title : String) : markerCount ((emptyBox look title).render flavor).toList = 1 := by
  have hcontent : Markup.renderAll flavor [.marker] = Markup.markerText := by
    simp [Markup.renderAll, Markup.render]
  rw [emptyBox, Markup.render, Markup.markerCount_element h, hcontent]
  decide

theorem markerCount_warning (flavor : Flavor) (title : String) :
    markerCount ((emptyBox .warning title).render flavor).toList = 1 :=
  markerCount_emptyBox (Look.lacks_warning (by decide)).isUnmarked flavor title

theorem markerCount_componentMarkup (e : Emitter) (flavor : Flavor) (name : String)
    (properties : List (String × Property)) :
    markerCount ((e.componentMarkup name properties).render flavor).toList = 0 := by
  unfold componentMarkup
  simp only
  split
  · have hname : Unmarked (normalizeName name).toList := .of_not_mem fun hmem => by
      cases isAlphanum_of_mem_normalizeName hmem
    have hend : Unmarked ([' ', '/'] ++ ['>']) := .of_not_mem (by decide)
    rw [Markup.render, Markup.toList_componentTag, List.append_assoc]
    exact (Unmarked.cons (by decide)
      ((hname.append (unmarked_attributeText properties)).append hend)).markerCount_eq_zero
  · exact markerCount_text (Look.lacks_missingComponent (by decide)).isUnmarked flavor _ _ _

/-! ## Reached nodes -/

/-- The nodes that are reached from a node with so many levels left, each with the levels that are
left at it: the node itself, and what is reached from its children if it is a visible container
above the limit. -/
def reached (e : Emitter) : Nat → Node → List (Nat × Node)
  | 0, node => [(0, node)]
  | levels + 1, node =>
    (levels + 1, node) ::
      if node.isVisible then
        (e.container? node).elim [] fun c => c.2.flatMap (e.reached levels)
      else []

/-- Whether an empty box stands for a node above the limit. -/
def isBoxed (e : Emitter) : Node → Bool
  | .frame _ _ | .text _ => false
  | .component _ _ _ => e.options.instances = .placeholder
  | .unknown _ => true

/-- Whether a reached node is visible, and cut by the limit, boxed or a container without any
visible child. -/
def isMarked (e : Emitter) (r : Nat × Node) : Bool :=
  r.2.isVisible &&
    (r.1 == 0 || e.isBoxed r.2 || (e.container? r.2).any fun c => c.2.all (!·.isVisible))

/-- Nothing else is reached from a hidden node, -/
theorem reached_hidden {node : Node} (h : node.isVisible = false) (levels : Nat) :
    e.reached levels node = [(levels, node)] := by
  cases levels <;> simp [reached, h]

/-- and nothing else from a node that is no container. -/
theorem reached_of_no_container {node : Node} (hcontainer : e.container? node = none)
    (levels : Nat) : e.reached (levels + 1) node = [(levels + 1, node)] := by
  simp [reached, hcontainer]

theorem reached_of_container {node : Node} {f : Frame} {children : List Node}
    (hcontainer : e.container? node = some (f, children)) (h : node.isVisible = true)
    (levels : Nat) :
    e.reached (levels + 1) node = (levels + 1, node) :: children.flatMap (e.reached levels) := by
  rw [reached, if_pos h, hcontainer, Option.elim_some]

theorem countP_reached_hidden {node : Node} (h : node.isVisible = false) (levels : Nat) :
    (e.reached levels node).countP e.isMarked = 0 := by
  simp [reached_hidden h, isMarked, h]

theorem countP_reached_zero {node : Node} (h : node.isVisible = true) :
    (e.reached 0 node).countP e.isMarked = 1 := by
  simp [reached, isMarked, h]

theorem countP_reached_of_no_container {node : Node} (h : node.isVisible = true)
    (hcontainer : e.container? node = none) (levels : Nat) :
    (e.reached (levels + 1) node).countP e.isMarked = if e.isBoxed node then 1 else 0 := by
  simp [reached_of_no_container hcontainer, isMarked, h, hcontainer]

theorem isBoxed_of_container {node : Node} {f : Frame} {children : List Node}
    (h : e.container? node = some (f, children)) : e.isBoxed node = false := by
  cases node with
  | frame g cs => rfl
  | text run => rfl
  | component g cs properties =>
    simp only [container?, Option.ite_none_right_eq_some] at h
    simp [isBoxed, h.1]
  | unknown u => cases h

theorem countP_reached_of_container {node : Node} {f : Frame} {children : List Node}
    (hcontainer : e.container? node = some (f, children)) (h : node.isVisible = true)
    (levels : Nat) :
    (e.reached (levels + 1) node).countP e.isMarked =
      (if ∀ child ∈ children, child.isVisible = false then 1 else 0) +
        (children.flatMap (e.reached levels)).countP e.isMarked := by
  rw [reached_of_container hcontainer h, List.countP_cons, Nat.add_comm]
  simp [isMarked, h, hcontainer, isBoxed_of_container hcontainer]

/-! ## The text of a node -/

/-- No marker is made where the texts of two nodes meet. -/
theorem markerCount_join {parent : Option Axis} {levels : Nat}
    (h : ∀ node, markerCount (e.textAt parent levels node).toList =
      (e.reached levels node).countP e.isMarked) (nodes : List Node) :
    markerCount (String.join (nodes.map (e.textAt parent levels))).toList =
      (nodes.flatMap (e.reached levels)).countP e.isMarked := by
  induction nodes with
  | nil => exact Markup.markerCount_nil
  | cons node rest ih =>
    -- what follows a node is nothing or begins with a tag
    have hapart : ∀ c ∈ (String.join (rest.map (e.textAt parent levels))).toList.head?,
        c ∉ Markup.markerText.toList := by
      intro c hc
      rw [(isBounded_join e parent levels rest).begins c hc]
      decide
    rw [List.map_cons, String.join_cons, String.toList_append, Markup.markerCount_append hapart, ih,
      h, List.flatMap_cons, List.countP_append]

theorem markerCount_orMarker {parent : Option Axis} {levels : Nat}
    (h : ∀ node, markerCount (e.textAt parent levels node).toList =
      (e.reached levels node).countP e.isMarked) (children : List Node) :
    markerCount (orMarker (String.join (children.map (e.textAt parent levels)))).toList =
      (if ∀ child ∈ children, child.isVisible = false then 1 else 0) +
        (children.flatMap (e.reached levels)).countP e.isMarked := by
  rw [← markerCount_join h, orMarker]
  by_cases hhidden : ∀ child ∈ children, child.isVisible = false
  · rw [if_pos (join_textAt_eq_empty_iff.mpr hhidden), if_pos hhidden,
      join_textAt_eq_empty_iff.mpr hhidden]
    decide
  · rw [if_neg (mt join_textAt_eq_empty_iff.mp hhidden), if_neg hhidden, Nat.zero_add]

theorem markerCount_textAt (hpalette : e.theme.palette.IsUnmarked) (parent : Option Axis)
    (levels : Nat) (node : Node) :
    markerCount (e.textAt parent levels node).toList =
      (e.reached levels node).countP e.isMarked := by
  -- the axis changes on the way down, so the induction is for all parents
  induction levels generalizing parent node with
  | zero =>
    cases hvisible : node.isVisible with
    | false =>
      rw [textAt_eq_empty_iff.mpr hvisible, countP_reached_hidden hvisible]
      exact Markup.markerCount_nil
    | true =>
      rw [textAt_of_some (markup?_limit hvisible), countP_reached_zero hvisible, depthWarning,
        markerCount_warning]
  | succ levels ih =>
    cases hvisible : node.isVisible with
    | false =>
      rw [textAt_eq_empty_iff.mpr hvisible, countP_reached_hidden hvisible]
      exact Markup.markerCount_nil
    | true =>
      cases hcontainer : e.container? node with
      | some c =>
        obtain ⟨f, children⟩ := c
        rw [textAt_container hcontainer hvisible,
          Markup.markerCount_element (Theme.isUnmarked_frame hpalette parent f),
          markerCount_orMarker (ih f.axis), countP_reached_of_container hcontainer hvisible]
      | none =>
        rw [countP_reached_of_no_container hvisible hcontainer]
        cases node with
        | frame f children => cases hcontainer
        | text run =>
          rw [textAt_of_some (markup?_text hvisible), textMarkup,
            markerCount_text (e.theme.lacks_text (by decide) run).isUnmarked]
          rfl
        | component f children properties =>
          rw [textAt_of_some (markup?_component hvisible children properties)]
          cases hmode : e.options.instances with
          | registry => simp [isBoxed, hmode, markerCount_componentMarkup]
          | placeholder =>
            have hlook := (e.theme.lacks_footprint (c := '#') (by decide) f).isUnmarked
            simp [isBoxed, hmode, footprint, markerCount_emptyBox hlook]
          | traverse => simp [container?, hmode] at hcontainer
        | unknown u =>
          rw [textAt_of_some (markup?_unknown hvisible), unknownWarning, markerCount_warning]
          rfl

/-- **Every marker stands for a node**: unless the palette has a class with a marker in its name,
the text of a node holds as many markers as nodes are reached that are visible and cut by the limit,
unknown, instances in the placeholder mode, or containers without visible children. -/
theorem occurrences_emit (e : Emitter) (hpalette : e.theme.palette.IsUnmarked) (node : Node)
    (parent : Option Node) :
    Text.occurrences Markup.markerText.toList (e.emit node parent).toList =
      (e.reached e.options.maxDepth node).countP e.isMarked := by
  rw [emit_eq]
  exact markerCount_textAt hpalette _ _ _

/-- Texts, titles, keys and values that hold markers, an empty frame, a hidden line and a frame at
the limit: two markers are counted. -/
theorem occurrences_emit_page :
    Text.occurrences Markup.markerText.toList
        (((ofRegistry (.register .empty ⟨"Button", []⟩)).withLimit 2).emit
          (.frame (.named "&#8203;")
            [.text (.reading "&#8203;"),
              .component (.named "Button") [] [("&#8203;", ⟨.text, .string "&#8203;"⟩)],
              .frame (.named "empty") [.unknown ⟨"line", false, "LINE", none⟩],
              .frame (.named "row") [.frame (.named "&#8203;") [.text (.reading "deep")]]])
          none).toList = 2 :=
  (occurrences_emit ((ofRegistry (.register .empty ⟨"Button", []⟩)).withLimit 2) (by decide) _
    none).trans (by decide)

end Emitter

end SceneMarkup
