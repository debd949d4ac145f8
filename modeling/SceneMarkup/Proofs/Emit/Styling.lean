import SceneMarkup.Proofs.Emit.Families

/-!
# Styling of nodes

The look of a frame is put together of parts (`Theme.parts`), one for each family of classes, so no
two of its classes contradict each other. A size is either a class of the scale or a declaration of
its exact text (`Theme.Writes`), for the dimensions of frames and of placeholders and for the sizes of
text (`frame_styling`).
-/

namespace SceneMarkup

def Palette.IsOfBackgrounds (p : Palette) : Prop :=
  ∀ s ∈ p.swatches, s.className ≠ "" ∧ "bg-".toList <+: s.className.toList

instance (p : Palette) : Decidable p.IsOfBackgrounds := inferInstanceAs (Decidable (∀ _ ∈ _, _))

/-- A look writes a size once, if there is one and it is a finite number: as the class of its bucket
where it fits the scale, else as a declaration of its exact text. -/
structure Theme.Writes (theme : Theme) (parent : Option Axis) (look : Look) (stem : String)
    (property : StyleProperty) (size : Option Float) : Prop where
  absent : (∀ px ∈ size, px.isFinite = false) → look.about parent property.family = .plain
  bucket : ∀ px ∈ size, px.isFinite = true → ∀ found, theme.spacing.fit? px = some found →
    look.about parent property.family = ⟨[stem ++ "-" ++ found.bucket.key.repr], []⟩
  literal : ∀ px ∈ size, px.isFinite = true → theme.spacing.fit? px = none →
    look.about parent property.family = ⟨[], [⟨property, Pixels.text px ++ "px"⟩]⟩

section

variable {parent : Option Axis} {family : ClassFamily} {stem : String}

/-! ## Parts -/

theorem isOf_spacingLook (h : family.stem? = some stem) (px : Option Float) :
    (spacingLook stem px).IsOf parent family := by
  unfold spacingLook
  split
  · rename_i name hname
    obtain ⟨size, -, hclass⟩ := Option.bind_eq_some_iff.mp hname
    simp only [Pixels.spacingClass?, Option.ite_none_left_eq_some, Option.some.injEq] at hclass
    obtain ⟨-, rfl⟩ := hclass
    exact Look.isOf_ofClass (ClassFamily.holds_stem h _)
  · exact Look.isOf_plain

theorem isOf_classLook {α : Type} {name : α → String}
    (h : ∀ a, family.holds parent (name a) = true) (a : Option α) :
    (classLook name a).IsOf parent family := by
  cases a with
  | none => exact Look.isOf_plain
  | some a => exact Look.isOf_ofClass (h a)

theorem Theme.isOf_scaled (theme : Theme) {property : StyleProperty}
    (h : property.family.stem? = some stem) (px : Float) :
    (theme.scaled stem property px).IsOf parent property.family := by
  unfold Theme.scaled
  split
  · exact Look.isOf_plain
  · split
    · exact Look.isOf_ofClass (ClassFamily.holds_stem h _)
    · exact Look.isOf_ofDeclaration ..

theorem Theme.isOf_scaled? (theme : Theme) {property : StyleProperty}
    (h : property.family.stem? = some stem) (px : Option Float) :
    (theme.scaled? stem property px).IsOf parent property.family := by
  cases px with
  | none => exact Look.isOf_plain
  | some px => exact theme.isOf_scaled h px

theorem Dimension.stem?_family (dimension : Dimension) :
    dimension.property.family.stem? = some dimension.family := by
  cases dimension <;> rfl

theorem Theme.isOf_sizing (theme : Theme) (dimension : Dimension) (sizing : Option Sizing)
    (px : Option Float) :
    (theme.sizing parent dimension sizing px).IsOf parent dimension.property.family := by
  have hstem (rest : String) :
      dimension.property.family.holds parent (dimension.family ++ "-" ++ rest) = true :=
    ClassFamily.holds_stem dimension.stem?_family rest
  unfold Theme.sizing
  split
  · exact Look.isOf_plain
  · split
    · rename_i hparent
      subst hparent
      refine Look.isOf_ofClass (ClassFamily.holds_word ?_)
      cases dimension <;> exact List.mem_singleton_self _
    · have hfull : dimension.family ++ "-full" = dimension.family ++ "-" ++ "full" := by
        cases dimension <;> rfl
      rw [hfull]
      exact Look.isOf_ofClass (hstem "full")
  · have hauto : dimension.family ++ "-auto" = dimension.family ++ "-" ++ "auto" := by
      cases dimension <;> rfl
    rw [hauto]
    exact Look.isOf_ofClass (hstem "auto")
  · exact theme.isOf_scaled? dimension.stem?_family px

theorem Theme.isOf_background {theme : Theme} (h : theme.palette.IsOfBackgrounds)
    (color : Option Rgb) : (theme.background color).IsOf parent .background := by
  cases color with
  | none => exact Look.isOf_plain
  | some color =>
    simp only [Theme.background, Palette.utility]
    cases hfind : theme.palette.swatches.find? (Palette.Swatch.covers · color.toRgb8) with
    | some s =>
      obtain ⟨-, rest, hrest⟩ := h s (List.mem_of_find?_eq_some hfind)
      have hname : s.className = "bg" ++ "-" ++ String.ofList rest := by
        rw [← String.toList_inj, ← hrest]
        simp
      have hclass : (Look.ofClass ("bg" ++ "-" ++ String.ofList rest)).IsOf parent .background :=
        Look.isOf_ofClass (ClassFamily.holds_stem rfl _)
      rwa [← hname] at hclass
    | none => exact Look.isOf_ofDeclaration .backgroundColor _

end

/-! ## Frames -/

def Axis.className : Axis → String
  | horizontal => "flex-row"
  | vertical => "flex-col"

def Theme.parts (theme : Theme) (parent : Option Axis) (f : Frame) : List (ClassFamily × Look) :=
  [(.display, classLook (fun _ => "flex") f.axis), (.direction, classLook Axis.className f.axis),
    (.wrap, f.wrap.look), (.gap, spacingLook "gap" f.itemSpacing),
    (.justify, classLook Justify.className f.justify), (.items, classLook Align.className f.align),
    (.paddingTop, spacingLook "pt" f.padding.top),
    (.paddingBottom, spacingLook "pb" f.padding.bottom),
    (.paddingLeft, spacingLook "pl" f.padding.left),
    (.paddingRight, spacingLook "pr" f.padding.right),
    (.width, theme.sizing parent .width f.horizontal f.width),
    (.height, theme.sizing parent .height f.vertical f.height),
    (.background, theme.background f.background?)]

theorem Theme.frame_eq_parts (theme : Theme) (parent : Option Axis) (f : Frame) :
    theme.frame parent f = .concat ((theme.parts parent f).map Prod.snd) := by
  unfold Theme.frame Theme.parts
  cases f.axis with
  | none => rfl
  | some axis => cases axis <;> rfl

theorem Theme.distinct_parts (theme : Theme) (parent : Option Axis) (f : Frame) :
    ((theme.parts parent f).map Prod.fst).Nodup := by
  have hfamilies : ((theme.parts parent f).map Prod.fst) =
      [.display, .direction, .wrap, .gap, .justify, .items, .paddingTop, .paddingBottom,
        .paddingLeft, .paddingRight, .width, .height, .background] := rfl
  rw [hfamilies]
  decide

theorem Theme.isOf_parts {theme : Theme} (h : theme.palette.IsOfBackgrounds)
    (parent : Option Axis) (f : Frame) :
    ∀ p ∈ theme.parts parent f, p.2.IsOf parent p.1 := by
  have hwrap : f.wrap.look.IsOf parent .wrap := by
    cases f.wrap <;> exact Look.isOf_ofClass rfl
  unfold Theme.parts
  simp only [List.forall_mem_cons]
  exact ⟨isOf_classLook (fun _ => rfl) _,
    isOf_classLook (fun axis => by cases axis <;> rfl) _, hwrap,
    isOf_spacingLook rfl _, isOf_classLook (fun j => by cases j <;> rfl) _,
    isOf_classLook (fun a => by cases a <;> rfl) _,
    isOf_spacingLook rfl _, isOf_spacingLook rfl _, isOf_spacingLook rfl _, isOf_spacingLook rfl _,
    theme.isOf_sizing .width _ _, theme.isOf_sizing .height _ _,
    Theme.isOf_background h _, List.forall_mem_nil _⟩

/-! ## Sizes -/

theorem Theme.writes_of_about {theme : Theme} {parent : Option Axis} {look : Look} {stem : String}
    {property : StyleProperty} {size : Option Float}
    (h : look.about parent property.family = theme.scaled? stem property size) :
    theme.Writes parent look stem property size where
  absent := by
    intro hsize
    rw [h]
    cases size with
    | none => rfl
    | some px =>
      rw [Theme.scaled?, Theme.scaled, hsize px rfl]
      rfl
  bucket := by
    rintro px ⟨⟩ hfinite found hfit
    have hname : stem ++ "-" ++ found.bucket.key.repr ≠ "" := fun heq => by
      simpa using congrArg String.toList heq
    rw [h, Theme.scaled?, Theme.scaled, hfinite, hfit]
    simp only [Bool.not_true, Bool.false_eq_true, if_false, Look.ofClass, hname]
  literal := by
    rintro px ⟨⟩ hfinite hfit
    rw [h, Theme.scaled?, Theme.scaled, hfinite, hfit]
    rfl

theorem Theme.about_frame {theme : Theme} (h : theme.palette.IsOfBackgrounds)
    (parent : Option Axis) (f : Frame) :
    (theme.frame parent f).about parent .width = theme.sizing parent .width f.horizontal f.width ∧
    (theme.frame parent f).about parent .height =
      theme.sizing parent .height f.vertical f.height ∧
    (theme.frame parent f).about parent .wrap = f.wrap.look := by
  have hparts := Theme.isOf_parts h parent f
  rw [theme.frame_eq_parts]
  exact ⟨Look.about_concat_of_part hparts rfl, Look.about_concat_of_part hparts rfl,
    Look.about_concat_of_part hparts rfl⟩

theorem Theme.about_concat_scaled? (theme : Theme) {parent : Option Axis} {a b : StyleProperty}
    {stem stem' : String} (ha : a.family.stem? = some stem) (hb : b.family.stem? = some stem')
    (hne : a.family ≠ b.family) (size size' : Option Float) :
    (Look.concat [theme.scaled? stem a size, theme.scaled? stem' b size']).about parent a.family =
      theme.scaled? stem a size ∧
    (Look.concat [theme.scaled? stem a size, theme.scaled? stem' b size']).about parent b.family =
      theme.scaled? stem' b size' := by
  have hparts : ∀ p ∈ [(a.family, theme.scaled? stem a size), (b.family, theme.scaled? stem' b size')],
      p.2.IsOf parent p.1 := by
    simp only [List.forall_mem_cons]
    exact ⟨theme.isOf_scaled? ha size, theme.isOf_scaled? hb size', List.forall_mem_nil _⟩
  constructor
  · exact Look.about_concat_of_part hparts (by simp [hne.symm])
  · exact Look.about_concat_of_part hparts (by simp [hne])

/-- Classes without any of a family, before a look, do not change what it says of the family. -/
theorem Look.about_ofClasses_append {parent : Option Axis} {family : ClassFamily}
    {names : List String} (h : ∀ name ∈ names, family.holds parent name = false) (look : Look) :
    (Look.ofClasses names ++ look).about parent family = look.about parent family := by
  have hnames : (Look.ofClasses names).about parent family = .plain := by
    have hclasses : names.filter (family.holds parent) = [] :=
      List.filter_eq_nil_iff.mpr fun name hname => by rw [h name hname]; exact Bool.false_ne_true
    rw [Look.about, Look.ofClasses, hclasses, List.filter_nil, Look.plain]
  rw [Look.about_append, hnames, Look.plain_append]

theorem Theme.about_footprint (theme : Theme) (f : Frame) :
    (theme.footprint f).about none .width = theme.scaled? "w" .width f.width ∧
    (theme.footprint f).about none .height = theme.scaled? "h" .height f.height := by
  rw [Theme.footprint, Look.concat_cons, Look.about_ofClasses_append (by decide),
    Look.about_ofClasses_append (by decide)]
  exact theme.about_concat_scaled? (a := .width) (b := .height) rfl rfl nofun f.width f.height

theorem Theme.about_text (theme : Theme) (run : TextRun) :
    (theme.text run).about none .fontSize = theme.scaled? "text" .fontSize run.fontSize ∧
    (theme.text run).about none .lineHeight =
      theme.scaled? "leading" .lineHeight (run.lineHeight.bind LineHeight.pixels?) :=
  theme.about_concat_scaled? (a := .fontSize) (b := .lineHeight) rfl rfl nofun _ _

/-- **No conflicting or lost styling**: in the look of a frame no two classes or declarations set the
same thing, the wrapping is always set, and a fixed dimension is written once if it is a finite
number, as a class or literally, and not at all if it is none; so are the dimensions of an instance's
placeholder and the sizes of a text. -/
theorem frame_styling {theme : Theme} (h : theme.palette.IsOfBackgrounds)
    (parent : Option Axis) (f : Frame) (run : TextRun) :
    (theme.frame parent f).IsCoherent parent ∧
    ((theme.frame parent f).classes.filter (ClassFamily.wrap.holds parent)).length = 1 ∧
    (f.horizontal = some .fixed →
      theme.Writes parent (theme.frame parent f) "w" .width f.width) ∧
    (f.vertical = some .fixed →
      theme.Writes parent (theme.frame parent f) "h" .height f.height) ∧
    theme.Writes none (theme.footprint f) "w" .width f.width ∧
    theme.Writes none (theme.footprint f) "h" .height f.height ∧
    theme.Writes none (theme.text run) "text" .fontSize run.fontSize ∧
    theme.Writes none (theme.text run) "leading" .lineHeight
      (run.lineHeight.bind LineHeight.pixels?) := by
  obtain ⟨hwidth, hheight, hwrap⟩ := Theme.about_frame h parent f
  obtain ⟨hboxWidth, hboxHeight⟩ := theme.about_footprint f
  obtain ⟨hsize, hline⟩ := theme.about_text run
  refine ⟨?_, ?_, ?_, ?_, Theme.writes_of_about hboxWidth, Theme.writes_of_about hboxHeight,
    Theme.writes_of_about hsize, Theme.writes_of_about hline⟩
  · rw [theme.frame_eq_parts]
    exact Look.isCoherent_concat (theme.distinct_parts parent f) (Theme.isOf_parts h parent f)
  · have hclasses : (theme.frame parent f).classes.filter (ClassFamily.wrap.holds parent) =
        f.wrap.look.classes := congrArg Look.classes hwrap
    rw [hclasses]
    cases f.wrap <;> rfl
  · intro hfixed
    rw [hfixed] at hwidth
    exact Theme.writes_of_about hwidth
  · intro hfixed
    rw [hfixed] at hheight
    exact Theme.writes_of_about hheight

/-- A white card in a column, of a fixed width and as high as there is space. -/
theorem frame_styling_card :
    Theme.standard.palette.IsOfBackgrounds ∧
    (Theme.standard.frame (some .vertical)
      { Frame.named "Card" with
        axis := some .vertical, horizontal := some .fixed, width := some 130,
        vertical := some .fill, itemSpacing := some 10, padding := .uniform 8,
        fills := [⟨"SOLID", true, some ⟨1, 1, 1⟩⟩] }).IsCoherent (some .vertical) ∧
    Theme.standard.Writes (some .vertical)
      (Theme.standard.frame (some .vertical)
        { Frame.named "Card" with
          axis := some .vertical, horizontal := some .fixed, width := some 130,
          vertical := some .fill, itemSpacing := some 10, padding := .uniform 8,
          fills := [⟨"SOLID", true, some ⟨1, 1, 1⟩⟩] })
      "w" .width (some 130) := by
  have hpalette : Theme.standard.palette.IsOfBackgrounds := by decide
  obtain ⟨hcoherent, -, hwidth, -⟩ := frame_styling hpalette (some .vertical)
    { Frame.named "Card" with
      axis := some .vertical, horizontal := some .fixed, width := some 130,
      vertical := some .fill, itemSpacing := some 10, padding := .uniform 8,
      fills := [⟨"SOLID", true, some ⟨1, 1, 1⟩⟩] } (.reading "")
  exact ⟨hpalette, hcoherent, hwidth rfl⟩

end SceneMarkup
