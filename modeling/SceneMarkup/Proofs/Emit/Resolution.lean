import SceneMarkup.Proofs.Emit.ComponentLine
import SceneMarkup.Proofs.Registry.Runs
import SceneMarkup.Proofs.Text.Entities

/-!
# Instances find their components

An instance is resolved by its normalised name. In the registry mode it is emitted as a tag of that
name if the name is registered, and as a box that names it if it is not (`textAt_component`), in any
place of a scene (`exists_around_instance`). The names that a checked registry can hold are those
that some instance is resolved by (`emit_resolved`).
-/

namespace SceneMarkup

def Markup.missingText (flavor : Flavor) (name : String) : String :=
  "<div " ++ flavor.classAttribute ++ "=\"component-placeholder\">" ++ "Unknown component: " ++ name ++
    "</div>"

namespace Emitter

variable {e : Emitter} {node : Node} {path : List Nat} {f : Frame} {inner : List Node}
  {properties : List (String × Property)}

/-- A normalised name has nothing in it that is escaped. -/
theorem escape_missing (flavor : Flavor) (name : String) :
    flavor.entities.escape ("Unknown component: " ++ normalizeName name) =
      "Unknown component: " ++ normalizeName name := by
  rw [EntityTable.escape, EntityTable.encode_of_not_mem, String.ofList_toList]
  intro p hp hmem
  rw [String.toList_append, List.mem_append] at hmem
  have hlabel : ∀ p ∈ flavor.entities, p.1 ∉ "Unknown component: ".toList := by
    cases flavor <;> decide
  have hname : ∀ p ∈ flavor.entities, p.1.isAlphanum = false := by
    cases flavor <;> decide
  rcases hmem with hmem | hmem
  · exact hlabel p hp hmem
  · have hplain := isAlphanum_of_mem_normalizeName hmem
    rw [hname p hp] at hplain
    cases hplain

theorem render_missing (flavor : Flavor) (name : String) :
    (Markup.element .div .missingComponent none
        [.text ("Unknown component: " ++ normalizeName name)]).render flavor =
      Markup.missingText flavor (normalizeName name) := by
  have hopening : Markup.openingTag flavor .div .missingComponent none =
      "<div " ++ flavor.classAttribute ++ "=\"component-placeholder\">" := by
    cases flavor <;> decide
  simp only [Markup.render, Markup.renderAll, hopening, escape_missing, Markup.missingText,
    String.append_empty, String.append_assoc]
  rfl

theorem textAt_component (hmode : e.options.instances = .registry) (parent : Option Axis)
    {levels : Nat} (hlevels : 0 < levels) (hvisible : f.visible = true) (inner : List Node)
    (properties : List (String × Property)) :
    e.textAt parent levels (.component f inner properties) =
      if e.registry.contains (normalizeName f.name) then
        Markup.componentTag (normalizeName f.name) (attributes properties)
      else Markup.missingText e.options.flavor (normalizeName f.name) := by
  obtain ⟨below, rfl⟩ : ∃ below, levels = below + 1 := Nat.exists_eq_add_one.mpr hlevels
  rw [textAt_of_some (markup?_component hvisible inner properties), hmode]
  simp only [componentMarkup]
  split
  · rw [Markup.render]
  · exact render_missing e.options.flavor f.name

/-- Where an instance stands in a scene, any instance is emitted as its name says, and nothing else
depends on it. -/
theorem exists_around_instance (hmode : e.options.instances = .registry)
    (h : node.Holds path (.component f inner properties)) (hdepth : path.length < e.options.maxDepth)
    (parent : Option Node) :
    ∃ pre post, (path = [] → pre = "" ∧ post = "") ∧ ∀ g children bag, g.visible = true →
      e.emit (node.replaceAt path (.component g children bag)) parent =
        pre ++ (if e.registry.contains (normalizeName g.name) then
            Markup.componentTag (normalizeName g.name) (attributes bag)
          else Markup.missingText e.options.flavor (normalizeName g.name)) ++ post := by
  rcases h with ⟨rfl, rfl⟩ | ⟨above, i, outer, siblings, rfl, hpath, hfound⟩
  · refine ⟨"", "", fun _ => ⟨rfl, rfl⟩, fun g children bag hg => ?_⟩
    rw [Node.replaceAt, emit_eq, textAt_component hmode _ hdepth hg, String.empty_append,
      String.append_empty]
  · rw [List.length_append, List.length_singleton] at hdepth
    obtain ⟨pre, post, -, -, haround⟩ :=
      exists_around_child e hpath hfound (parent.bind e.childAxis?) (Nat.lt_of_succ_lt hdepth)
    refine ⟨pre, post, fun hnil => absurd hnil (by simp), fun g children bag hg => ?_⟩
    rw [emit_eq, haround (.component g children bag) hg,
      textAt_component hmode _ (Nat.sub_pos_of_lt hdepth) hg]

/-- **The names that are registered are those that instances are resolved by.** Normalising a name
again changes nothing, and a component is accepted if and only if its name is not empty and some
name is normalised to it. In a scene that is emitted with a checked registry, an instance above the
depth limit is a tag of its normalised name if that is registered, and then it is not empty, else a
box that names it; and every component is found by all instances whose names are normalised to its
own. -/
theorem emit_resolved (theme : Theme) (flavor : Flavor) (limit : Nat) {r : Registry}
    (hr : r.Checked) :
    (∀ name, normalizeName (normalizeName name) = normalizeName name) ∧
    (∀ (s : Registry) d, (∃ s', s.tryRegister d = .ok s') ↔
      d.name ≠ "" ∧ ∃ name, normalizeName name = d.name) ∧
    (∀ (node : Node) path f inner properties, node.Holds path (.component f inner properties) →
      path.length < limit → ∀ parent,
        node.replaceAt path (.component f inner properties) = node ∧
        ∃ pre post, (path = [] → pre = "" ∧ post = "") ∧ ∀ g children bag, g.visible = true →
          let out := (Emitter.mk r theme ⟨flavor, .registry, limit⟩).emit
            (node.replaceAt path (.component g children bag)) parent
          (r.contains (normalizeName g.name) = true → normalizeName g.name ≠ "" ∧
            out = pre ++ Markup.componentTag (normalizeName g.name) (attributes bag) ++ post) ∧
          (r.contains (normalizeName g.name) = false →
            out = pre ++ Markup.missingText flavor (normalizeName g.name) ++ post)) ∧
    ∀ d ∈ r.components, normalizeName d.name = d.name ∧
      ∀ name, normalizeName name = d.name → r.get? (normalizeName name) = some d := by
  refine ⟨normalizeName_normalizeName, ?_, ?_, ?_⟩
  · intro s d
    simp only [Registry.tryRegister_eq_ok_iff, exists_and_left, exists_eq, and_true,
      isName_iff_exists]
  · intro node path f inner properties hholds hdepth parent
    refine ⟨hholds.replaceAt_self, ?_⟩
    obtain ⟨pre, post, hroot, haround⟩ := exists_around_instance
      (e := Emitter.mk r theme ⟨flavor, .registry, limit⟩) rfl hholds hdepth parent
    refine ⟨pre, post, hroot, fun g children bag hg => ⟨fun hknown => ⟨?_, ?_⟩, fun hunknown => ?_⟩⟩
    · exact (isComponentName_iff.mp (hr.isComponentName hknown)).1
    · rw [haround g children bag hg, if_pos hknown]
    · rw [haround g children bag hg, if_neg (by rw [hunknown]; decide)]
  · intro d hd
    have hname := isComponentName_iff.mp (hr.namesValid d hd)
    refine ⟨normalizeName_eq_self_iff.mpr hname.2, ?_⟩
    rintro name hname
    exact (Registry.get?_eq_some_iff r _ d).mpr ⟨hd, hname.symm⟩

/-- In a frame, an instance with blanks and a slash in its name finds its component, and one without
any letter or digit finds none. -/
theorem emit_resolved_card :
    ∃ r, Registry.ofText "\x7b\"components\":[[\"CardPrimary\"]]\x7d" = .ok r ∧
      r.get? (normalizeName "Card / Primary") = some ⟨"CardPrimary", []⟩ ∧
      ∃ pre post,
        (Emitter.mk r .standard ⟨.html, .registry, 2⟩).emit
            (.frame (.named "") [.component (.named "Card / Primary") [] []]) none =
          pre ++ "<CardPrimary />" ++ post ∧
        (Emitter.mk r .standard ⟨.html, .registry, 2⟩).emit
            (.frame (.named "") [.component (.named "-") [] []]) none =
          pre ++ "<div class=\"component-placeholder\">Unknown component: </div>" ++ post := by
  have htext : Registry.ofText "\x7b\"components\":[[\"CardPrimary\"]]\x7d" =
      .ok (.register .empty ⟨"CardPrimary", []⟩) := rfl
  obtain ⟨-, -, hscene, hfound⟩ := emit_resolved .standard .html 2 (.document htext)
  have hholds : Node.Holds (.frame (.named "") [.component (.named "Card / Primary") [] []]) [0]
      (.component (.named "Card / Primary") [] []) := .inr ⟨[], 0, _, _, rfl, .here rfl _, rfl⟩
  obtain ⟨-, pre, post, -, haround⟩ := hscene _ _ _ _ _ hholds (by decide) none
  refine ⟨_, htext, (hfound ⟨"CardPrimary", []⟩ (.head _)).2 _ (by decide), pre, post, ?_, ?_⟩
  · exact ((haround (.named "Card / Primary") [] [] rfl).1 (by decide)).2
  · exact (haround (.named "-") [] [] rfl).2 (by decide)

end Emitter

end SceneMarkup
