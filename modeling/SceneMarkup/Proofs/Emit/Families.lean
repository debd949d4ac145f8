import Mathlib.Data.List.Nodup
import SceneMarkup.Emit.Look

/-!
# Families of classes

Utility classes of one family set the same thing, so a look should hold one of them at most, and none
if the thing is declared literally. A class has one family (`ClassFamily.eq_of_holds`). A look that is
put together of parts, each of a family of its own (`Look.IsOf`), says of a family what its part says
(`about_concat`), and does not contradict itself (`isCoherent_concat`).
-/

namespace SceneMarkup

/-- What utility classes of frames and texts set. -/
inductive ClassFamily where
  | display
  | direction
  | wrap
  | gap
  | justify
  | items
  | paddingTop
  | paddingBottom
  | paddingLeft
  | paddingRight
  | width
  | height
  | background
  | fontSize
  | lineHeight
  deriving DecidableEq, Repr

namespace ClassFamily

/-- The classes of a family that are fixed words. To grow along the axis of the parent is to have its
width or its height. -/
def words (parent : Option Axis) : ClassFamily → List String
  | display => ["flex"]
  | direction => ["flex-row", "flex-col"]
  | wrap => ["flex-wrap", "flex-nowrap"]
  | width => if parent = some .horizontal then ["flex-1"] else []
  | height => if parent = some .vertical then ["flex-1"] else []
  | _ => []

def stem? : ClassFamily → Option String
  | display | direction | wrap => none
  | gap => some "gap"
  | justify => some "justify"
  | items => some "items"
  | paddingTop => some "pt"
  | paddingBottom => some "pb"
  | paddingLeft => some "pl"
  | paddingRight => some "pr"
  | width => some "w"
  | height => some "h"
  | background => some "bg"
  | fontSize => some "text"
  | lineHeight => some "leading"

/-- Whether a class is of a family, inside a parent laid out along an axis. -/
def holds (parent : Option Axis) (family : ClassFamily) (name : String) : Bool :=
  (family.words parent).contains name ||
    family.stem?.any fun stem => (stem ++ "-").toList.isPrefixOf name.toList

variable {parent : Option Axis} {family : ClassFamily} {name stem : String}

theorem holds_word (h : name ∈ family.words parent) : family.holds parent name = true := by
  rw [holds, List.contains_iff_mem.mpr h, Bool.true_or]

theorem holds_stem (h : family.stem? = some stem) (rest : String) :
    family.holds parent (stem ++ "-" ++ rest) = true := by
  have hopens : (stem ++ "-").toList <+: (stem ++ "-" ++ rest).toList := by
    simp only [String.toList_append, List.prefix_append]
  rw [holds, h, Option.any_some, List.isPrefixOf_iff_prefix.mpr hopens, Bool.or_true]

/-! ## One family for each class -/

def stemOf (name : String) : String := String.ofList (name.toList.takeWhile (· != '-'))

theorem stemOf_of_prefix (hdash : '-' ∉ stem.toList)
    (h : (stem ++ "-").toList <+: name.toList) : stemOf name = stem := by
  obtain ⟨rest, hrest⟩ := h
  have hstem : ∀ c ∈ stem.toList, (c != '-') = true := fun c hc =>
    bne_iff_ne.mpr fun heq => hdash (heq ▸ hc)
  have hdashes : "-".toList = ['-'] := rfl
  rw [stemOf, ← hrest, String.toList_append, List.append_assoc,
    List.takeWhile_append_of_pos hstem, hdashes]
  simp

def ofStem? : String → Option ClassFamily
  | "gap" => some gap
  | "justify" => some justify
  | "items" => some items
  | "pt" => some paddingTop
  | "pb" => some paddingBottom
  | "pl" => some paddingLeft
  | "pr" => some paddingRight
  | "w" => some width
  | "h" => some height
  | "bg" => some background
  | "text" => some fontSize
  | "leading" => some lineHeight
  | _ => none

def ofWord? (parent : Option Axis) : String → Option ClassFamily
  | "flex" => some display
  | "flex-row" | "flex-col" => some direction
  | "flex-wrap" | "flex-nowrap" => some wrap
  | "flex-1" =>
    match parent with
    | some .horizontal => some width
    | some .vertical => some height
    | none => none
  | _ => none

def of? (parent : Option Axis) (name : String) : Option ClassFamily :=
  if stemOf name = "flex" then ofWord? parent name else ofStem? (stemOf name)

theorem of?_of_word (h : name ∈ family.words parent) : of? parent name = some family := by
  cases family with
  | display =>
    obtain rfl := List.mem_singleton.mp h
    rfl
  | direction | wrap =>
    simp only [words, List.mem_cons, List.not_mem_nil, or_false] at h
    rcases h with rfl | rfl <;> rfl
  | width | height =>
    simp only [words] at h
    split at h
    · rename_i hparent
      subst hparent
      obtain rfl := List.mem_singleton.mp h
      rfl
    · cases h
  | _ => cases h

theorem of?_of_stem (hstem : family.stem? = some stem)
    (h : (stem ++ "-").toList <+: name.toList) : of? parent name = some family := by
  cases family <;> cases hstem <;>
    simp only [of?, stemOf_of_prefix (by decide) h, String.reduceEq, if_false] <;> rfl

theorem of?_of_holds (h : family.holds parent name = true) : of? parent name = some family := by
  rw [holds, Bool.or_eq_true, Option.any_eq_true] at h
  rcases h with hword | ⟨stem, hstem, hopens⟩
  · exact of?_of_word (List.contains_iff_mem.mp hword)
  · exact of?_of_stem hstem (List.isPrefixOf_iff_prefix.mp hopens)

theorem eq_of_holds {a b : ClassFamily} (ha : a.holds parent name = true)
    (hb : b.holds parent name = true) : a = b :=
  Option.some.inj ((of?_of_holds ha).symm.trans (of?_of_holds hb))

end ClassFamily

def StyleProperty.family : StyleProperty → ClassFamily
  | width => .width
  | height => .height
  | backgroundColor => .background
  | fontSize => .fontSize
  | lineHeight => .lineHeight

/-! ## Looks of one family -/

namespace Look

/-- What a look says of a family. -/
def about (parent : Option Axis) (family : ClassFamily) (look : Look) : Look where
  classes := look.classes.filter (family.holds parent)
  declarations := look.declarations.filter (·.property.family = family)

structure IsOf (parent : Option Axis) (family : ClassFamily) (look : Look) : Prop where
  holds : ∀ name ∈ look.classes, family.holds parent name = true
  declares : ∀ d ∈ look.declarations, d.property.family = family
  single : look.classes.length + look.declarations.length ≤ 1

variable {parent : Option Axis} {family other : ClassFamily} {look : Look}

theorem isOf_plain : plain.IsOf parent family where
  holds := List.forall_mem_nil _
  declares := List.forall_mem_nil _
  single := Nat.zero_le 1

theorem isOf_ofClass {name : String} (h : family.holds parent name = true) :
    (ofClass name).IsOf parent family := by
  unfold ofClass
  split
  · exact isOf_plain
  · exact ⟨List.forall_mem_singleton.mpr h, List.forall_mem_nil _, Nat.le_refl 1⟩

theorem isOf_ofDeclaration (property : StyleProperty) (value : String) :
    (ofDeclaration property value).IsOf parent property.family where
  holds := List.forall_mem_nil _
  declares := List.forall_mem_singleton.mpr rfl
  single := Nat.le_refl 1

theorem IsOf.about_self (h : look.IsOf parent family) : look.about parent family = look := by
  have hclasses := List.filter_eq_self.mpr h.holds
  have hdeclarations := List.filter_eq_self (p := fun d : Declaration => d.property.family = family)
    |>.mpr fun d hd => decide_eq_true (h.declares d hd)
  rw [about, hclasses, hdeclarations]

theorem IsOf.about_other (h : look.IsOf parent other) (hne : other ≠ family) :
    look.about parent family = plain := by
  have hclasses : look.classes.filter (family.holds parent) = [] :=
    List.filter_eq_nil_iff.mpr fun name hname hholds =>
      hne (ClassFamily.eq_of_holds (h.holds name hname) hholds)
  have hdeclarations : look.declarations.filter (·.property.family = family) = [] :=
    List.filter_eq_nil_iff.mpr fun d hd hfamily =>
      hne ((h.declares d hd).symm.trans (of_decide_eq_true hfamily))
  rw [about, hclasses, hdeclarations, plain]

/-! ## Looks put together -/

theorem concat_cons (look : Look) (looks : List Look) :
    concat (look :: looks) = look ++ concat looks := rfl

theorem about_append (parent : Option Axis) (family : ClassFamily) (a b : Look) :
    (a ++ b).about parent family = a.about parent family ++ b.about parent family := by
  have hclasses : (a ++ b).classes = a.classes ++ b.classes := rfl
  have hdeclarations : (a ++ b).declarations = a.declarations ++ b.declarations := rfl
  rw [about, hclasses, hdeclarations, List.filter_append, List.filter_append]
  rfl

theorem plain_append (look : Look) : plain ++ look = look := rfl

variable {parts : List (ClassFamily × Look)}

/-- A look put together of parts says of a family what the parts of the family say. -/
theorem about_concat (hparts : ∀ p ∈ parts, p.2.IsOf parent p.1) (family : ClassFamily) :
    (concat (parts.map Prod.snd)).about parent family =
      concat ((parts.filter (·.1 = family)).map Prod.snd) := by
  induction parts with
  | nil => rfl
  | cons p rest ih =>
    obtain ⟨hp, hrest⟩ := List.forall_mem_cons.mp hparts
    rw [List.map_cons, concat_cons, about_append, ih hrest]
    by_cases hfamily : p.1 = family
    · subst hfamily
      rw [hp.about_self, List.filter_cons, decide_eq_true rfl, if_pos rfl, List.map_cons,
        concat_cons]
    · rw [hp.about_other hfamily, plain_append, List.filter_cons, decide_eq_false hfamily,
        if_neg Bool.false_ne_true]

theorem about_concat_of_part (hparts : ∀ p ∈ parts, p.2.IsOf parent p.1)
    (hpart : parts.filter (·.1 = family) = [(family, look)]) :
    (concat (parts.map Prod.snd)).about parent family = look := by
  rw [about_concat hparts, hpart]
  simp [concat]

/-- Parts of distinct families say one thing at most of each. -/
theorem single_about_concat (hdistinct : (parts.map Prod.fst).Nodup)
    (hparts : ∀ p ∈ parts, p.2.IsOf parent p.1) (family : ClassFamily) :
    ((concat (parts.map Prod.snd)).about parent family).classes.length +
      ((concat (parts.map Prod.snd)).about parent family).declarations.length ≤ 1 := by
  have hcount : (parts.filter (·.1 = family)).length ≤ 1 := by
    have hle := List.nodup_iff_count_le_one.mp hdistinct family
    rw [List.count_eq_countP, List.countP_map, List.countP_eq_length_filter] at hle
    simpa only [Function.comp_def, beq_eq_decide] using hle
  rw [about_concat hparts]
  cases hfound : parts.filter (·.1 = family) with
  | nil => exact Nat.zero_le 1
  | cons p rest =>
    have hrest : rest = [] := by
      rw [hfound, List.length_cons] at hcount
      exact List.length_eq_zero_iff.mp (by omega)
    have hp : p ∈ parts := (List.mem_filter.mp (hfound ▸ List.mem_cons_self)).1
    subst hrest
    simpa [concat] using (hparts p hp).single

/-- No two classes of a look and no two declarations set the same thing, and no class sets what is
declared. -/
structure IsCoherent (parent : Option Axis) (look : Look) : Prop where
  classes : look.classes.Nodup
  family : ∀ family : ClassFamily, (look.classes.filter (family.holds parent)).length ≤ 1
  properties : (look.declarations.map (·.property)).Nodup
  literal : ∀ d ∈ look.declarations,
    look.classes.filter (d.property.family.holds parent) = []

theorem isCoherent_concat (hdistinct : (parts.map Prod.fst).Nodup)
    (hparts : ∀ p ∈ parts, p.2.IsOf parent p.1) :
    (concat (parts.map Prod.snd)).IsCoherent parent := by
  have hsingle := single_about_concat hdistinct hparts
  have hfamily (family : ClassFamily) := Nat.le_of_add_right_le (hsingle family)
  refine ⟨List.nodup_iff_count_le_one.mpr fun name => ?_, hfamily, ?_, fun d hd => ?_⟩
  · by_cases hname : name ∈ (concat (parts.map Prod.snd)).classes
    · obtain ⟨look, hlook, hmem⟩ := List.mem_flatMap.mp hname
      obtain ⟨p, hp, rfl⟩ := List.mem_map.mp hlook
      have hholds := (hparts p hp).holds name hmem
      refine Nat.le_trans ?_ (hfamily p.1)
      rw [about, ← List.countP_eq_length_filter, List.count_eq_countP]
      refine List.countP_mono_left fun other _ heq => ?_
      rw [eq_of_beq heq]
      exact hholds
    · rw [List.count_eq_zero_of_not_mem hname]
      exact Nat.zero_le 1
  · refine List.nodup_iff_count_le_one.mpr fun property => ?_
    refine Nat.le_trans ?_ (Nat.le_of_add_left_le (hsingle property.family))
    rw [about, ← List.countP_eq_length_filter, List.count_eq_countP, List.countP_map]
    refine List.countP_mono_left fun d _ heq => ?_
    have hproperty : d.property = property := eq_of_beq heq
    exact decide_eq_true (congrArg StyleProperty.family hproperty)
  · have hdeclared : d ∈ ((concat (parts.map Prod.snd)).about parent
        d.property.family).declarations := List.mem_filter.mpr ⟨hd, decide_eq_true rfl⟩
    have hpos := List.length_pos_of_mem hdeclared
    have hle := hsingle d.property.family
    have hnone : ((concat (parts.map Prod.snd)).about parent d.property.family).classes = [] :=
      List.length_eq_zero_iff.mp (by omega)
    exact hnone

end Look

end SceneMarkup
