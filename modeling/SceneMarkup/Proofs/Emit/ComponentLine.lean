import SceneMarkup.Proofs.Emit.Attributes
import SceneMarkup.Proofs.Emit.Isolation
import SceneMarkup.Proofs.Emit.TagValues
import SceneMarkup.Proofs.Registry.Checked

/-!
# Component tags in printed markup

The tag of a registered component is printed as a bare one (`Emitter.PrintsAsBare`) if it is one
line and all other lines are indented as they are without its properties. It is, wherever it stands
in a scene, just if no value is cut and the values leave the tag closed (`printsAsBare_iff`).
-/

namespace SceneMarkup

open Markup (KeepLine LeavesClosed Unbracketed Uncut writtenValues pieces printed)

namespace Node

/-- A path leads to a node, which is the root or a child of the last of the visible frames that the
path leads through. -/
def Holds (node : Node) (path : List Nat) (found : Node) : Prop :=
  path = [] ∧ node = found ∨
    ∃ above i f children, path = above ++ [i] ∧ node.LeadsTo above f children ∧
      children[i]? = some found

theorem Holds.replaceAt_self {node found : Node} {path : List Nat} (h : node.Holds path found) :
    node.replaceAt path found = node := by
  rcases h with ⟨rfl, rfl⟩ | ⟨above, i, f, children, rfl, hpath, hfound⟩
  · rw [replaceAt]
  · exact Emitter.replaceAt_self hpath hfound

end Node

namespace Emitter

variable {e : Emitter} {node : Node} {above path : List Nat} {f g : Frame}
  {children inner : List Node} {properties : List (String × Property)}

def tagText (f : Frame) (properties : List (String × Property)) : List Char :=
  (Markup.componentTag (normalizeName f.name) (attributes properties)).toList

theorem head?_tagText (f : Frame) (properties : List (String × Property)) :
    (tagText f properties).head? = some '<' := by
  rw [tagText, Markup.toList_componentTag]
  rfl

theorem getLast?_tagText (f : Frame) (properties : List (String × Property)) :
    (tagText f properties).getLast? = some '>' := by
  rw [tagText, Markup.toList_componentTag, Markup.getLast?_tag]

theorem isAlphanum_of_mem_name (f : Frame) :
    ∀ c ∈ (normalizeName f.name).toList, c.isAlphanum = true :=
  fun _ hc => isAlphanum_of_mem_normalizeName hc

/-- The tag of an instance stands on a line of its own, and all other lines are what they are if the
instance has no properties. -/
def PrintsAsBare (e : Emitter) (node : Node) (path : List Nat) (parent : Option Node) (f : Frame)
    (inner : List Node) (properties : List (String × Property)) : Prop :=
  ∃ before level after,
    printed (e.emit node parent) = before ++ (level, tagText f properties) :: after ∧
    printed (e.emit (node.replaceAt path (.component f inner [])) parent) =
      before ++ (level, tagText f []) :: after

theorem PrintsAsBare.levels {parent : Option Node}
    (h : e.PrintsAsBare node path parent f inner properties) :
    (printed (e.emit node parent)).map Prod.fst =
      (printed (e.emit (node.replaceAt path (.component f inner [])) parent)).map Prod.fst := by
  obtain ⟨before, level, after, hprinted, hbare⟩ := h
  rw [hprinted, hbare]
  simp

section

variable (hvisible : f.visible = true) (hmode : e.options.instances = .registry)
  (hregistered : e.registry.contains (normalizeName f.name) = true)

include hvisible hmode hregistered

theorem toList_textAt_registered (parent : Option Axis) {levels : Nat} (hlevels : 0 < levels)
    (inner : List Node) (properties : List (String × Property)) :
    (e.textAt parent levels (.component f inner properties)).toList = tagText f properties := by
  obtain ⟨below, rfl⟩ : ∃ below, levels = below + 1 := Nat.exists_eq_add_one.mpr hlevels
  rw [textAt_of_some (markup?_component hvisible inner properties), hmode]
  simp only [componentMarkup, hregistered, if_true]
  rw [Markup.render, tagText]

/-- The lines before and after the tag of an instance do not depend on its properties. -/
theorem exists_pieces_emit (h : node.Holds path (.component f inner properties))
    (hdepth : path.length < e.options.maxDepth) (parent : Option Node) :
    ∃ before after, ∀ properties,
      pieces (e.emit (node.replaceAt path (.component f inner properties)) parent).toList =
        before ++ pieces (tagText f properties) ++ after := by
  rcases h with ⟨rfl, rfl⟩ | ⟨above, i, g, children, rfl, hpath, hfound⟩
  · refine ⟨[], [], fun properties => ?_⟩
    have htext := toList_textAt_registered hvisible hmode hregistered (parent.bind e.childAxis?)
      hdepth inner properties
    rw [Node.replaceAt, emit_eq, htext, List.nil_append, List.append_nil]
  · rw [List.length_append, List.length_singleton] at hdepth
    obtain ⟨pre, post, hpre, hpost, haround⟩ :=
      exists_around_child e hpath hfound (parent.bind e.childAxis?) (Nat.lt_of_succ_lt hdepth)
    obtain ⟨before, after, hpieces⟩ := Markup.exists_pieces_around hpre hpost
    refine ⟨before, after, fun properties => ?_⟩
    have htext := toList_textAt_registered hvisible hmode hregistered g.axis
      (Nat.sub_pos_of_lt hdepth) inner properties
    rw [emit_eq, haround (.component f inner properties) hvisible, String.toList_append,
      String.toList_append, htext]
    exact hpieces _ (head?_tagText f properties) (getLast?_tagText f properties)

end

/-! ## Tags that keep their line -/

theorem unbracketed_names (hkeys : ∀ p ∈ properties, Unbracketed (propName p.1).toList) :
    ∀ a ∈ attributes properties, Unbracketed a.name.toList := by
  rw [attributes_eq, namedProperties]
  intro a ha
  obtain ⟨p, hp, rfl⟩ := List.mem_map.mp ha
  exact hkeys p (List.mem_filter.mp hp).1

section

variable (hvisible : f.visible = true) (hmode : e.options.instances = .registry)
  (hregistered : e.registry.contains (normalizeName f.name) = true)
  (hkeys : ∀ p ∈ properties, Unbracketed (propName p.1).toList)

include hkeys

theorem pieces_tagText_iff (f : Frame) :
    pieces (tagText f properties) = [tagText f properties] ↔
      ∀ value ∈ writtenValues (attributes properties), Uncut value := by
  rw [Markup.pieces_eq_singleton_iff, tagText,
    Markup.uncut_componentTag_iff (isAlphanum_of_mem_name f) (unbracketed_names hkeys)]

theorem levelAfter_tagText (f : Frame) (level : Nat) :
    Markup.levelAfter level (tagText f properties) =
      if LeavesClosed (writtenValues (attributes properties)) then level else level + 1 :=
  Markup.levelAfter_componentTag (isAlphanum_of_mem_name f) (unbracketed_names hkeys) level

include hvisible hmode hregistered

theorem printsAsBare_of_keepLine (h : KeepLine (writtenValues (attributes properties)))
    {path : List Nat} (hpath : node.Holds path (.component f inner properties))
    (hdepth : path.length < e.options.maxDepth) (parent : Option Node) :
    e.PrintsAsBare node path parent f inner properties := by
  obtain ⟨before, after, hpieces⟩ :=
    exists_pieces_emit hvisible hmode hregistered hpath hdepth parent
  -- the lines around the tag are the same, and so is the level, whatever tag stands between them
  have hprinted (bag : List (String × Property))
      (hbag : ∀ p ∈ bag, Unbracketed (propName p.1).toList)
      (hkeep : KeepLine (writtenValues (attributes bag))) :
      printed (e.emit (node.replaceAt path (.component f inner bag)) parent) =
        Markup.leveled 0 before ++ (before.foldl Markup.levelAfter 0, tagText f bag) ::
          Markup.leveled (before.foldl Markup.levelAfter 0) after := by
    rw [printed, hpieces bag, (pieces_tagText_iff hbag f).mpr hkeep.uncut]
    refine Markup.leveled_around rfl ?_ ?_ after
    · exact Markup.levelAt_componentTag (isAlphanum_of_mem_name f) _
    · rw [levelAfter_tagText hbag, if_pos hkeep.closed]
  refine ⟨_, _, _, ?_, hprinted [] (List.forall_mem_nil _) (by decide)⟩
  rw [← hprinted properties hkeys h, hpath.replaceAt_self]

end

/-! ## Tags that do not -/

def solo (f : Frame) (inner : List Node) (properties : List (String × Property)) : Node :=
  .frame (.named "") [.component f inner properties]

theorem holds_solo (f : Frame) (inner : List Node) (properties : List (String × Property)) :
    (solo f inner properties).Holds [0] (.component f inner properties) :=
  .inr ⟨[], 0, .named "", [.component f inner properties], rfl, .here rfl _, rfl⟩

theorem isUnbracketed_solo (theme : Theme) :
    (theme.frame none (.named "")).IsUnbracketed := by
  have hlook : theme.frame none (.named "") = .ofClasses ["flex-nowrap"] := rfl
  rw [hlook]
  exact ⟨.ofClasses (by decide), .ofClasses (by decide)⟩

section

variable (hvisible : f.visible = true) (hmode : e.options.instances = .registry)
  (hdepth : 1 < e.options.maxDepth)
  (hregistered : e.registry.contains (normalizeName f.name) = true)

include hvisible hmode hdepth hregistered

theorem toList_emit_solo (inner : List Node) (properties : List (String × Property)) :
    (e.emit (solo f inner properties) none).toList =
      (Markup.openingTag e.options.flavor .div (e.theme.frame none (.named "")) "").toList ++
        tagText f properties ++ (Markup.closingTag .div).toList := by
  obtain ⟨below, hbelow⟩ : ∃ below, e.options.maxDepth = below + 1 :=
    Nat.exists_eq_add_one.mpr (Nat.zero_lt_of_lt hdepth)
  have htext := toList_textAt_registered hvisible hmode hregistered none
    (show 0 < below by omega) inner properties
  have hne : e.textAt none below (.component f inner properties) ≠ "" := by
    have hinstance : (Node.component f inner properties).isVisible = true := hvisible
    rw [Ne, textAt_eq_empty_iff, hinstance]
    decide
  have hjoin : String.join ([.component f inner properties].map (e.textAt none below)) =
      e.textAt none below (.component f inner properties) := by
    rw [List.map_singleton, String.join_cons]
    exact String.append_empty
  have hframe : e.emit (solo f inner properties) none =
      Markup.openingTag e.options.flavor .div (e.theme.frame none (.named "")) "" ++
        e.textAt none below (.component f inner properties) ++ Markup.closingTag .div := by
    rw [emit_eq, hbelow, solo, textAt_frame e _ below rfl]
    have haxis : (Frame.named "").axis = none := rfl
    rw [haxis, hjoin, orMarker, if_neg hne]
    rfl
  rw [hframe, String.toList_append, String.toList_append, htext]

/-- The levels of the three lines: the closing tag stands at the level of the opening one just if
the values leave the tag closed. -/
theorem levels_solo (h : ∀ value ∈ writtenValues (attributes properties), Uncut value)
    (hkeys : ∀ p ∈ properties, Unbracketed (propName p.1).toList) :
    (printed (e.emit (solo f inner properties) none)).map Prod.fst =
      [0, 1, if LeavesClosed (writtenValues (attributes properties)) then 0 else 1] := by
  obtain ⟨inside, hopening, htext⟩ := Markup.exists_isOpening (isUnbracketed_solo e.theme)
    e.options.flavor .div (some "")
  have hlines : pieces (e.emit (solo f inner properties) none).toList =
      ['<' :: (inside ++ ['>']), tagText f properties, (Markup.closingTag .div).toList] := by
    have hclosing : pieces (Markup.closingTag .div).toList = [(Markup.closingTag .div).toList] :=
      Markup.pieces_eq_singleton_iff.mpr (Markup.uncut_closingTag .div)
    have hrest : pieces (tagText f properties ++ (Markup.closingTag .div).toList) =
        [tagText f properties, (Markup.closingTag .div).toList] := by
      rw [Markup.pieces_append (getLast?_tagText f properties) (by decide),
        (pieces_tagText_iff hkeys f).mpr h, hclosing]
      rfl
    have hbegins : (tagText f properties ++ (Markup.closingTag .div).toList).head? = some '<' := by
      rw [List.head?_append, head?_tagText]
      rfl
    rw [toList_emit_solo hvisible hmode hdepth hregistered, htext, List.append_assoc,
      Markup.pieces_append (Markup.getLast?_tag inside) hbegins, hrest,
      Markup.pieces_eq_singleton_iff.mpr (Markup.uncut_tag hopening.unbracketed.2)]
    rfl
  have hfirst : Markup.levelAt 0 ('<' :: (inside ++ ['>'])) = 0 := by
    rw [Markup.levelAt, Markup.startsClosing_tag hopening.begins]
    rfl
  have hopened : Markup.levelAfter 0 ('<' :: (inside ++ ['>'])) = 1 :=
    (Markup.tracks_opening hopening []).level
  have htag : Markup.levelAt 1 (tagText f properties) = 1 :=
    Markup.levelAt_componentTag (isAlphanum_of_mem_name f) 1
  have hlast (level : Nat) : Markup.levelAt level (Markup.closingTag .div).toList = level - 1 := by
    rw [Markup.toList_closingTag]
    rfl
  rw [printed, hlines]
  simp only [Markup.leveled, List.map_cons, List.map_nil, hfirst, hopened, htag, hlast,
    levelAfter_tagText hkeys]
  split <;> rfl

theorem keepLine_of_printsAsBare (hkeys : ∀ p ∈ properties, Unbracketed (propName p.1).toList)
    (h : e.PrintsAsBare (solo f inner properties) [0] none f inner properties) :
    KeepLine (writtenValues (attributes properties)) := by
  have hlevels := h.levels
  obtain ⟨before, level, after, hprinted, -⟩ := h
  have hmem : tagText f properties ∈ pieces (e.emit (solo f inner properties) none).toList := by
    rw [← Markup.map_leveled 0 (pieces _), ← printed, hprinted]
    simp
  have huncut : ∀ value ∈ writtenValues (attributes properties), Uncut value :=
    (pieces_tagText_iff hkeys f).mp
      (Markup.pieces_eq_singleton_iff.mpr (Markup.uncut_of_mem_pieces hmem))
  have hreplaced : (solo f inner properties).replaceAt [0] (.component f inner []) =
      solo f inner [] := by
    simp [solo, Node.replaceAt]
  have hbare : LeavesClosed (writtenValues (attributes [])) := by decide
  rw [hreplaced, levels_solo hvisible hmode hdepth hregistered huncut hkeys,
    levels_solo hvisible hmode hdepth hregistered (by decide) (List.forall_mem_nil _),
    if_pos hbare] at hlevels
  -- without the properties the closing tag is at level zero, so it is so with them
  exact ⟨huncut, by simpa using hlevels⟩

/-- **An instance is printed as a bare one wherever it stands if and only if** its values keep the
line of its tag. -/
theorem printsAsBare_iff (inner : List Node)
    (hkeys : ∀ p ∈ properties, Unbracketed (propName p.1).toList) :
    (∀ node path parent, node.Holds path (.component f inner properties) →
        path.length < e.options.maxDepth → e.PrintsAsBare node path parent f inner properties) ↔
      KeepLine (writtenValues (attributes properties)) := by
  constructor
  · intro h
    exact keepLine_of_printsAsBare hvisible hmode hdepth hregistered hkeys
      (h _ _ none (holds_solo f inner properties) hdepth)
  · exact fun h node path parent hpath hlength =>
      printsAsBare_of_keepLine hvisible hmode hregistered hkeys h hpath hlength parent

end

/-- A button whose label holds an opening and a closing tag, in front of a text. -/
theorem printsAsBare_bold :
    (ofRegistry (.register .empty ⟨"Button", []⟩)).PrintsAsBare
      (.frame (.named "")
        [.component (.named "Button") [] [("label", ⟨.text, .string "<b>Go</b>"⟩)],
          .text (.reading "x")])
      [0] none (.named "Button") [] [("label", ⟨.text, .string "<b>Go</b>"⟩)] := by
  have hkeys : ∀ p ∈ [("label", (⟨.text, .string "<b>Go</b>"⟩ : Property))],
      Unbracketed (propName p.1).toList := by decide +kernel
  have hkeep : KeepLine (writtenValues (attributes
      [("label", ⟨.text, .string "<b>Go</b>"⟩)])) := by decide +kernel
  exact (printsAsBare_iff rfl rfl (by decide) rfl [] hkeys).mpr hkeep _ _ none
    (.inr ⟨[], 0, _, _, rfl, .here rfl _, rfl⟩) (by decide)

/-- Behind a label with a bracket the text is indented one level too deep, and so is the closing
tag of the frame. -/
theorem not_printsAsBare_bracket :
    ¬ (ofRegistry (.register .empty ⟨"Button", []⟩)).PrintsAsBare
      (.frame (.named "")
        [.component (.named "Button") [] [("label", ⟨.text, .string "Next >"⟩)],
          .text (.reading "x")])
      [0] none (.named "Button") [] [("label", ⟨.text, .string "Next >"⟩)] := by
  intro h
  have hlevels := h.levels
  revert hlevels
  decide +kernel

end Emitter

end SceneMarkup
