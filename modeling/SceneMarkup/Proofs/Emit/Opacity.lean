import SceneMarkup.Proofs.Emit.DepthLimit
import SceneMarkup.Proofs.Registry.Registration

/-!
# Instances are opaque to the registry mode

Emitted as component tags, instances show their names and their properties alone: trees that agree
outside of them (`Node.AgreeOutside`) are emitted as the same markup, and hand the same axis to
their children, which is none for an instance. Of the registry, it is asked which names it contains,
and in the other modes not even that.
-/

namespace SceneMarkup

/-- Trees that differ at most in the frames of their instances, but for the names and the visibility
of these, and in the children of their instances. -/
inductive Node.AgreeOutside : Node → Node → Prop where
  | frame (f : Frame) {children others : List Node}
      (h : List.Forall₂ AgreeOutside children others) :
      AgreeOutside (.frame f children) (.frame f others)
  | text (run : TextRun) : AgreeOutside (.text run) (.text run)
  | component {f g : Frame} (hname : f.name = g.name) (hvisible : f.visible = g.visible)
      (children others : List Node) (properties : List (String × Property)) :
      AgreeOutside (.component f children properties) (.component g others properties)
  | unknown (u : UnknownNode) : AgreeOutside (.unknown u) (.unknown u)

namespace Node.AgreeOutside

variable {a b : Node}

theorem name (h : a.AgreeOutside b) : a.name = b.name := by
  cases h with
  | frame | text | unknown => rfl
  | component hname => exact hname

theorem isVisible (h : a.AgreeOutside b) : a.isVisible = b.isVisible := by
  cases h with
  | frame | text | unknown => rfl
  | component _ hvisible => exact hvisible

end Node.AgreeOutside

namespace Emitter

variable {e : Emitter} {a b : Node}

theorem childAxis?_of_agreeOutside (hmode : e.options.instances = .registry)
    (h : a.AgreeOutside b) : e.childAxis? a = e.childAxis? b := by
  cases h with
  | frame | text | unknown => rfl
  | component => simp only [childAxis?, hmode, reduceCtorEq, if_false]

theorem markup?_of_agreeOutside (hmode : e.options.instances = .registry) (h : a.AgreeOutside b)
    (parent : Option Axis) (levels : Nat) :
    e.markup? parent levels a = e.markup? parent levels b := by
  -- the axis changes on the way down, so the induction is for all parents
  induction levels generalizing parent a b with
  | zero => exact markup?_zero_congr h.name h.isVisible
  | succ levels ih =>
    refine markup?_congr_visible h.isVisible fun ha hb => ?_
    cases h with
    | @frame f children others hchildren =>
      have hcontent : children.filterMap (e.markup? f.axis levels) =
          others.filterMap (e.markup? f.axis levels) :=
        filterMap_eq_of_forall₂ hchildren fun _ _ hchild => ih hchild f.axis
      rw [markup?_frame ha, markup?_frame hb, hcontent]
    | text | unknown => rfl
    | component hname =>
      rw [markup?_component ha, markup?_component hb, hmode]
      simp only [hname]

theorem emit_of_sameNames {registry registry' : Registry} (theme : Theme) (options : Options)
    (h : options.instances = .registry → registry'.SameNames registry) (node : Node)
    (parent : Option Node) :
    (Emitter.mk registry' theme options).emit node parent =
      (Emitter.mk registry theme options).emit node parent := by
  have hmarkup : (Emitter.mk registry' theme options).markup? =
      (Emitter.mk registry theme options).markup? := by
    funext axis levels node
    apply markup?_congr_names
    · rfl
    · rfl
    · exact h
  have haxis : (Emitter.mk registry' theme options).childAxis? =
      (Emitter.mk registry theme options).childAxis? := by
    funext node
    cases node <;> rfl
  rw [emit_eq, emit_eq, textAt, textAt, hmarkup, haxis]

/-- **Instances are opaque in the registry mode, and the registry is a set of names**: what the
frames of instances hold beside names and visibility, and what is in them, shows neither in the text
of a tree nor in that of the children of one; two registries of the same names, such as those that
descriptors of the same names were registered in, give the same text; and in the other modes any two
registries do. -/
theorem emit_opaque (theme : Theme) (flavor : Flavor) (limit : Nat) :
    (∀ (registry : Registry) (a b : Node), a.AgreeOutside b →
      (∀ parent, (Emitter.mk registry theme ⟨flavor, .registry, limit⟩).emit a parent =
        (Emitter.mk registry theme ⟨flavor, .registry, limit⟩).emit b parent) ∧
      ∀ node, (Emitter.mk registry theme ⟨flavor, .registry, limit⟩).emit node (some a) =
        (Emitter.mk registry theme ⟨flavor, .registry, limit⟩).emit node (some b)) ∧
    (∀ registry registry' : Registry, registry'.SameNames registry → ∀ node parent,
      (Emitter.mk registry' theme ⟨flavor, .registry, limit⟩).emit node parent =
        (Emitter.mk registry theme ⟨flavor, .registry, limit⟩).emit node parent) ∧
    (∀ (registry : Registry) (ds ds' : List Descriptor),
      (∀ name, name ∈ ds'.map (·.name) ↔ name ∈ ds.map (·.name)) → ∀ node parent,
        (Emitter.mk (ds'.foldl Registry.register registry) theme
            ⟨flavor, .registry, limit⟩).emit node parent =
          (Emitter.mk (ds.foldl Registry.register registry) theme
            ⟨flavor, .registry, limit⟩).emit node parent) ∧
    ∀ mode, mode ≠ .registry → ∀ (registry registry' : Registry) (node : Node)
      (parent : Option Node),
        (Emitter.mk registry' theme ⟨flavor, mode, limit⟩).emit node parent =
          (Emitter.mk registry theme ⟨flavor, mode, limit⟩).emit node parent := by
  refine ⟨?_, ?_, ?_, ?_⟩
  · intro registry a b h
    constructor
    · intro parent
      rw [emit_eq, emit_eq, textAt, textAt, markup?_of_agreeOutside rfl h]
    · intro node
      rw [emit_eq, emit_eq, Option.bind_some, Option.bind_some, childAxis?_of_agreeOutside rfl h]
  · intro registry registry' h node parent
    exact emit_of_sameNames theme _ (fun _ => h) node parent
  · intro registry ds ds' hnames node parent
    have hsame : registry.SameNames registry := fun _ => rfl
    exact emit_of_sameNames theme _ (fun _ => hsame.registered hnames) node parent
  · intro mode hmode registry registry' node parent
    exact emit_of_sameNames theme _ (fun h => absurd h hmode) node parent

/-- A button that fills a page with a text in it, and one of another size in a column without any; a
registry that declares a prop of it and one that does not; one that another component came into
before it and one that it came into after; and one without it. -/
theorem emit_opaque_button :
    (Emitter.mk (.register .empty ⟨"Button", []⟩) .standard ⟨.html, .registry, 9⟩).emit
        (.frame (.named "page")
          [.component { Frame.named "Button" with horizontal := some .fill }
            [.text (.reading "Hi")] [("label", ⟨.text, .string "x"⟩)]])
        none =
      (Emitter.mk (.register .empty ⟨"Button", []⟩) .standard ⟨.html, .registry, 9⟩).emit
        (.frame (.named "page")
          [.component { Frame.named "Button" with width := some 40, axis := some .vertical } []
            [("label", ⟨.text, .string "x"⟩)]])
        none ∧
    (Emitter.mk (.register .empty ⟨"Button", [⟨"label", .text, none⟩]⟩) .standard
        ⟨.html, .registry, 9⟩).emit (.component (.named "Button") [] []) none =
      (Emitter.mk (.register .empty ⟨"Button", []⟩) .standard ⟨.html, .registry, 9⟩).emit
        (.component (.named "Button") [] []) none ∧
    (Emitter.mk (.register (.register .empty ⟨"Icon", []⟩) ⟨"Button", []⟩) .standard
        ⟨.html, .registry, 9⟩).emit (.component (.named "Button") [] []) none =
      (Emitter.mk (.register (.register .empty ⟨"Button", []⟩) ⟨"Icon", []⟩) .standard
        ⟨.html, .registry, 9⟩).emit (.component (.named "Button") [] []) none ∧
    (Emitter.mk .empty .standard ⟨.html, .placeholder, 9⟩).emit
        (.component (.named "Button") [] []) none =
      (Emitter.mk (.register .empty ⟨"Button", []⟩) .standard ⟨.html, .placeholder, 9⟩).emit
        (.component (.named "Button") [] []) none := by
  obtain ⟨hinstances, hnames, hregistered, hmodes⟩ := emit_opaque .standard .html 9
  have hagree : Node.AgreeOutside
      (.frame (.named "page")
        [.component { Frame.named "Button" with horizontal := some .fill }
          [.text (.reading "Hi")] [("label", ⟨.text, .string "x"⟩)]])
      (.frame (.named "page")
        [.component { Frame.named "Button" with width := some 40, axis := some .vertical } []
          [("label", ⟨.text, .string "x"⟩)]]) := by
    refine .frame _ (.cons ?_ .nil)
    constructor <;> rfl
  have hsame : Registry.SameNames (.register .empty ⟨"Button", [⟨"label", .text, none⟩]⟩)
      (.register .empty ⟨"Button", []⟩) := by
    intro name
    rw [Bool.eq_iff_iff, Registry.contains_register, Registry.contains_register]
  have horder (name : String) :
      name ∈ [Descriptor.mk "Icon" [], ⟨"Button", []⟩].map (·.name) ↔
        name ∈ [Descriptor.mk "Button" [], ⟨"Icon", []⟩].map (·.name) := by
    simp [or_comm]
  exact ⟨(hinstances _ _ _ hagree).1 none, hnames _ _ hsame _ none,
    hregistered .empty _ _ horder _ none, hmodes _ (by decide) _ _ _ none⟩

end Emitter

end SceneMarkup
