import SceneMarkup.Emit.Look
import SceneMarkup.Proofs.Decimal.Characters
import SceneMarkup.Proofs.Markup.Reading

/-!
# What looks are written with

A look that a theme gives holds no character (`Look.Lacks`) that the class names of its palette do
not hold, letters, digits and a few signs apart (`isLookChar`): the other classes are fixed, and
sizes and colours are written with figures. So no look holds a quote, and looks can be read.
-/

namespace SceneMarkup

def isLookChar (c : Char) : Bool := isFigure c || ['[', ']', '(', ')', ','].contains c

/-- No class and no declared value holds a character. -/
structure Look.Lacks (c : Char) (look : Look) : Prop where
  classes : ∀ name ∈ look.classes, c ∉ name.toList
  values : ∀ d ∈ look.declarations, c ∉ d.value.toList

namespace Look.Lacks

variable {c : Char}

theorem isReadable {look : Look} (h : look.Lacks '"') : look.IsReadable := ⟨h.classes, h.values⟩

theorem plain : Look.plain.Lacks c := ⟨List.forall_mem_nil _, List.forall_mem_nil _⟩

theorem ofClass {name : String} (h : c ∉ name.toList) : (Look.ofClass name).Lacks c where
  classes := by
    unfold Look.ofClass
    split
    · exact List.forall_mem_nil _
    · simpa using h
  values := List.forall_mem_nil _

theorem ofClasses {names : List String} (h : ∀ name ∈ names, c ∉ name.toList) :
    (Look.ofClasses names).Lacks c := ⟨h, List.forall_mem_nil _⟩

theorem ofDeclaration (property : StyleProperty) {value : String} (h : c ∉ value.toList) :
    (Look.ofDeclaration property value).Lacks c :=
  ⟨List.forall_mem_nil _, by simpa [Look.ofDeclaration] using h⟩

theorem concat {looks : List Look} (h : ∀ look ∈ looks, look.Lacks c) :
    (Look.concat looks).Lacks c where
  classes := fun name hname => by
    obtain ⟨look, hlook, hmem⟩ := List.mem_flatMap.mp hname
    exact (h look hlook).classes name hmem
  values := fun d hd => by
    obtain ⟨look, hlook, hmem⟩ := List.mem_flatMap.mp hd
    exact (h look hlook).values d hmem

end Look.Lacks

theorem Pixels.figures_text (px : Float) : Figures (Pixels.text px).toList := by
  unfold Pixels.text
  split
  · decide
  · exact Layout.figures_text _ px

def Palette.Lacks (c : Char) (p : Palette) : Prop := ∀ s ∈ p.swatches, c ∉ s.className.toList

instance (c : Char) (p : Palette) : Decidable (p.Lacks c) :=
  inferInstanceAs (Decidable (∀ _ ∈ _, _))

section

variable {c : Char} (hc : isLookChar c = false)

include hc

theorem not_mem_of_isLookChar {text : String} (h : text.toList.all isLookChar = true) :
    c ∉ text.toList := fun hmem => by
  rw [List.all_eq_true.mp h c hmem] at hc
  cases hc

theorem Figures.not_mem_of_isLookChar {text : List Char} (h : Figures text) : c ∉ text :=
  h.not_mem (Bool.or_eq_false_iff.mp hc).1

/-! ## Sizes -/

theorem Pixels.not_mem_step (px : Float) : c ∉ (Pixels.step px).toList := by
  unfold Pixels.step
  split
  · exact List.not_mem_nil
  · split
    · exact (figures_repr _).not_mem_of_isLookChar hc
    · have htext := (Pixels.figures_text px).not_mem_of_isLookChar hc
      exact Reader.not_mem_append
        (Reader.not_mem_append (not_mem_of_isLookChar hc (by decide)) htext)
        (not_mem_of_isLookChar hc (by decide))

theorem not_mem_classOf {family key : String} (hfamily : family.toList.all isLookChar = true)
    (hkey : c ∉ key.toList) : c ∉ (family ++ "-" ++ key).toList :=
  Reader.not_mem_append (Reader.not_mem_append (not_mem_of_isLookChar hc hfamily)
    (not_mem_of_isLookChar hc (by decide))) hkey

theorem lacks_spacingLook {family : String} (h : family.toList.all isLookChar = true)
    (px : Option Float) : (spacingLook family px).Lacks c := by
  unfold spacingLook
  split
  · rename_i name hname
    obtain ⟨size, -, hclass⟩ := Option.bind_eq_some_iff.mp hname
    simp only [Pixels.spacingClass?, Option.ite_none_left_eq_some, Option.some.injEq] at hclass
    obtain ⟨-, rfl⟩ := hclass
    exact .ofClass (not_mem_classOf hc h (Pixels.not_mem_step hc size))
  · exact .plain

theorem Theme.lacks_scaled (theme : Theme) {family : String}
    (h : family.toList.all isLookChar = true) (property : StyleProperty) (px : Float) :
    (theme.scaled family property px).Lacks c := by
  unfold Theme.scaled
  split
  · exact .plain
  · split
    · rename_i found _
      have hkey := (figures_repr found.bucket.key).not_mem_of_isLookChar hc
      exact .ofClass (not_mem_classOf hc h hkey)
    · have htext := (Pixels.figures_text px).not_mem_of_isLookChar hc
      exact .ofDeclaration _ (Reader.not_mem_append htext (not_mem_of_isLookChar hc (by decide)))

theorem Theme.lacks_scaled? (theme : Theme) {family : String}
    (h : family.toList.all isLookChar = true) (property : StyleProperty) (px : Option Float) :
    (theme.scaled? family property px).Lacks c := by
  cases px with
  | none => exact .plain
  | some px => exact theme.lacks_scaled hc h property px

theorem Theme.lacks_sizing (theme : Theme) (parent : Option Axis) (dimension : Dimension)
    (sizing : Option Sizing) (px : Option Float) :
    (theme.sizing parent dimension sizing px).Lacks c := by
  have hfamily : dimension.family.toList.all isLookChar = true := by cases dimension <;> decide
  have hfixed {text : String} (h : text.toList.all isLookChar = true) :
      c ∉ (dimension.family ++ text).toList :=
    Reader.not_mem_append (not_mem_of_isLookChar hc hfamily) (not_mem_of_isLookChar hc h)
  unfold Theme.sizing
  split
  · exact .plain
  · split
    · exact .ofClass (not_mem_of_isLookChar hc (by decide))
    · exact .ofClass (hfixed (by decide))
  · exact .ofClass (hfixed (by decide))
  · exact theme.lacks_scaled? hc hfamily _ px

/-! ## Colours -/

theorem Rgb8.not_mem_css (color : Rgb8) : c ∉ color.css.toList := by
  have hfixed {text : String} (h : text.toList.all isLookChar = true) : c ∉ text.toList :=
    not_mem_of_isLookChar hc h
  have hchannel {text : String} (n : Nat) (h : c ∉ text.toList) : c ∉ (text ++ n.repr).toList :=
    Reader.not_mem_append h ((figures_repr n).not_mem_of_isLookChar hc)
  have hstart : c ∉ "rgb(".toList := hfixed (by decide)
  have hcomma : c ∉ ",".toList := hfixed (by decide)
  have hred := hchannel color.r.toNat hstart
  have hgreen := hchannel color.g.toNat (Reader.not_mem_append hred hcomma)
  have hblue := hchannel color.b.toNat (Reader.not_mem_append hgreen hcomma)
  exact Reader.not_mem_append hblue (hfixed (by decide))

theorem Theme.not_mem_values_background (theme : Theme) (color : Option Rgb) :
    ∀ d ∈ (theme.background color).declarations, c ∉ d.value.toList := by
  cases color with
  | none => exact List.forall_mem_nil _
  | some color =>
    simp only [Theme.background]
    cases theme.palette.utility color.toRgb8 with
    | named className => exact List.forall_mem_nil _
    | literal color => exact List.forall_mem_singleton.mpr (Rgb8.not_mem_css hc color)

theorem Theme.lacks_background {theme : Theme} (h : theme.palette.Lacks c) (color : Option Rgb) :
    (theme.background color).Lacks c where
  classes := by
    cases color with
    | none => exact List.forall_mem_nil _
    | some color =>
      simp only [Theme.background, Palette.utility]
      cases hfind : theme.palette.swatches.find? (Palette.Swatch.covers · color.toRgb8) with
      | some s => exact (Look.Lacks.ofClass (h s (List.mem_of_find?_eq_some hfind))).classes
      | none => exact List.forall_mem_nil _
  values := theme.not_mem_values_background hc color

/-! ## Nodes -/

theorem lacks_ofClasses {names : List String}
    (h : ∀ name ∈ names, name.toList.all isLookChar = true) : (Look.ofClasses names).Lacks c :=
  .ofClasses fun name hname => not_mem_of_isLookChar hc (h name hname)

theorem lacks_axisLook (axis : Option Axis) : (Axis.look axis).Lacks c := by
  unfold Axis.look
  split
  · exact lacks_ofClasses hc (by decide)
  · exact lacks_ofClasses hc (by decide)
  · exact .plain

theorem lacks_classLook {α : Type} {name : α → String}
    (h : ∀ a, (name a).toList.all isLookChar = true) (a : Option α) :
    (classLook name a).Lacks c := by
  cases a with
  | none => exact .plain
  | some a => exact .ofClass (not_mem_of_isLookChar hc (h a))

/-- The look of a frame but for its background. -/
def Theme.layout (theme : Theme) (parent : Option Axis) (f : Frame) : List Look :=
  [Axis.look f.axis, f.wrap.look, spacingLook "gap" f.itemSpacing,
    classLook Justify.className f.justify, classLook Align.className f.align,
    spacingLook "pt" f.padding.top, spacingLook "pb" f.padding.bottom,
    spacingLook "pl" f.padding.left, spacingLook "pr" f.padding.right,
    theme.sizing parent .width f.horizontal f.width,
    theme.sizing parent .height f.vertical f.height]

omit hc in
theorem Theme.frame_eq (theme : Theme) (parent : Option Axis) (f : Frame) :
    theme.frame parent f =
      .concat (theme.layout parent f ++ [theme.background f.background?]) := rfl

theorem Theme.lacks_layout (theme : Theme) (parent : Option Axis) (f : Frame) :
    ∀ look ∈ theme.layout parent f, look.Lacks c := by
  have hwrap : f.wrap.look.Lacks c := by
    cases f.wrap <;> exact .ofClass (not_mem_of_isLookChar hc (by decide))
  unfold Theme.layout
  simp only [List.forall_mem_cons]
  exact ⟨lacks_axisLook hc _, hwrap, lacks_spacingLook hc (by decide) _,
    lacks_classLook hc (fun j => by cases j <;> decide) _,
    lacks_classLook hc (fun a => by cases a <;> decide) _,
    lacks_spacingLook hc (by decide) _, lacks_spacingLook hc (by decide) _,
    lacks_spacingLook hc (by decide) _, lacks_spacingLook hc (by decide) _,
    theme.lacks_sizing hc .., theme.lacks_sizing hc .., List.forall_mem_nil _⟩

theorem Theme.lacks_frame {theme : Theme} (h : theme.palette.Lacks c) (parent : Option Axis)
    (f : Frame) : (theme.frame parent f).Lacks c := by
  rw [Theme.frame_eq]
  apply Look.Lacks.concat
  rw [List.forall_mem_append, List.forall_mem_singleton]
  exact ⟨theme.lacks_layout hc parent f, theme.lacks_background hc h _⟩

/-- The declared values of a frame hold no other characters, whatever the palette is. -/
theorem Theme.not_mem_values_frame (theme : Theme) (parent : Option Axis) (f : Frame) :
    ∀ d ∈ (theme.frame parent f).declarations, c ∉ d.value.toList := by
  rw [Theme.frame_eq]
  intro d hd
  obtain ⟨look, hlook, hmem⟩ := List.mem_flatMap.mp hd
  rcases List.mem_append.mp hlook with hlayout | hbackground
  · exact (theme.lacks_layout hc parent f look hlayout).values d hmem
  · obtain rfl := List.mem_singleton.mp hbackground
    exact theme.not_mem_values_background hc _ d hmem

theorem Theme.lacks_text (theme : Theme) (run : TextRun) : (theme.text run).Lacks c := by
  refine .concat ?_
  simp only [List.forall_mem_cons]
  exact ⟨theme.lacks_scaled? hc (by decide) .., theme.lacks_scaled? hc (by decide) ..,
    List.forall_mem_nil _⟩

theorem Theme.lacks_footprint (theme : Theme) (f : Frame) : (theme.footprint f).Lacks c := by
  refine .concat ?_
  simp only [List.forall_mem_cons]
  exact ⟨lacks_ofClasses hc (by decide), theme.lacks_scaled? hc (by decide) ..,
    theme.lacks_scaled? hc (by decide) .., List.forall_mem_nil _⟩

theorem Look.lacks_warning : Look.warning.Lacks c := lacks_ofClasses hc (by decide)

theorem Look.lacks_missingComponent : Look.missingComponent.Lacks c :=
  lacks_ofClasses hc (by decide)

end

/-! ## Looks can be read -/

def Palette.IsQuotable (p : Palette) : Prop := ∀ s ∈ p.swatches, '"' ∉ s.className.toList

instance (p : Palette) : Decidable p.IsQuotable := inferInstanceAs (Decidable (∀ _ ∈ _, _))

theorem Theme.isReadable_frame {theme : Theme} (h : theme.palette.IsQuotable)
    (parent : Option Axis) (f : Frame) : (theme.frame parent f).IsReadable :=
  (Theme.lacks_frame (by decide) h parent f).isReadable

theorem Theme.isReadable_text (theme : Theme) (run : TextRun) : (theme.text run).IsReadable :=
  (theme.lacks_text (by decide) run).isReadable

theorem Theme.isReadable_footprint (theme : Theme) (f : Frame) :
    (theme.footprint f).IsReadable := (theme.lacks_footprint (by decide) f).isReadable

theorem Look.isReadable_warning : Look.warning.IsReadable :=
  (Look.lacks_warning (by decide)).isReadable

theorem Look.isReadable_missingComponent : Look.missingComponent.IsReadable :=
  (Look.lacks_missingComponent (by decide)).isReadable

end SceneMarkup
