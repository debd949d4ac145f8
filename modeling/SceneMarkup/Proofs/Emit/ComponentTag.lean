import SceneMarkup.Proofs.Emit.Skeleton
import SceneMarkup.Proofs.Markup.Names

/-!
# Component tags

The tag of a registered component is read back as its named properties just if every name that a
key gives can be read as one (`readSkeleton_emit_component_iff`). Keys are written as they are: a
key with a quote, an equals sign, a slash, a bracket or a brace is cut there, and what follows it is
read as something else.
-/

namespace SceneMarkup

open Reader

theorem name_of_attribute? {raw : RawAttribute} {a : Attribute} (h : raw.attribute? = some a) :
    a.name.toList = raw.name := by
  unfold RawAttribute.attribute? at h
  split at h
  · obtain ⟨value, -, rfl⟩ := Option.map_eq_some_iff.mp h
    exact String.toList_ofList
  · cases h
    exact String.toList_ofList

theorem isKey_of_mapM_attribute? {raws : List RawAttribute} {attributes : List Attribute}
    (hraws : AreKeyed raws) (h : raws.mapM RawAttribute.attribute? = some attributes) :
    ∀ a ∈ attributes, IsKey a.name.toList := by
  induction raws generalizing attributes with
  | nil => cases h; exact List.forall_mem_nil _
  | cons raw rest ih =>
    obtain ⟨hraw, hrest⟩ := List.forall_mem_cons.mp hraws
    simp only [List.mapM_cons, Option.bind_eq_bind, Option.bind_eq_some_iff, Option.pure_def,
      Option.some.injEq] at h
    obtain ⟨first, hfirst, more, hmore, rfl⟩ := h
    have hname : IsKey first.name.toList := by rw [name_of_attribute? hfirst]; exact hraw
    exact List.forall_mem_cons.mpr ⟨hname, ih hrest hmore⟩

theorem isTagName_of_readSkeleton {flavor : Flavor} {text name : String}
    {attributes : List Attribute}
    (h : readSkeleton flavor text = some (.component name attributes)) :
    IsTagName name.toList ∧ ∀ a ∈ attributes, IsKey a.name.toList := by
  unfold readSkeleton at h
  split at h
  · rename_i item hread
    have hsound := isSound_of_read hread item (.head _)
    cases hsound with
    | text characters =>
      rw [Item.skeleton?] at h
      split at h
      · cases h
      · obtain ⟨_, -, hmarker⟩ := Option.map_eq_some_iff.mp h
        cases hmarker
    | element hkeys hcontent =>
      rw [Item.skeleton?] at h
      obtain ⟨title, -, hbox⟩ := Option.bind_eq_some_iff.mp h
      obtain ⟨_, -, hbox⟩ := Option.map_eq_some_iff.mp hbox
      cases hbox
    | component hname hkeys =>
      rw [Item.skeleton?] at h
      obtain ⟨found, hfound, hcomponent⟩ := Option.map_eq_some_iff.mp h
      cases hcomponent
      rw [String.toList_ofList]
      exact ⟨hname, isKey_of_mapM_attribute? hkeys hfound⟩
  · cases h

namespace Emitter

theorem emit_registered (e : Emitter) {f : Frame} (hvisible : f.visible = true)
    (hmode : e.options.instances = .registry) (hdepth : 0 < e.options.maxDepth)
    (hregistered : e.registry.contains (normalizeName f.name) = true) (children : List Node)
    (properties : List (String × Property)) (parent : Option Node) :
    e.emit (.component f children properties) parent =
      (Markup.component (normalizeName f.name) (attributes properties)).render
        e.options.flavor := by
  obtain ⟨levels, hlevels⟩ := Nat.exists_eq_add_of_lt hdepth
  have hmarkup : e.markup? (parent.bind e.childAxis?) e.options.maxDepth
      (.component f children properties) =
        some (.component (normalizeName f.name) (attributes properties)) := by
    rw [show e.options.maxDepth = levels + 1 by omega, markup?_component hvisible, hmode]
    simp only [componentMarkup, hregistered, if_true]
  rw [emit_eq, textAt_of_some hmarkup]

theorem uncutName_of_isKey {properties : List (String × Property)}
    (h : ∀ a ∈ namedProperties properties, IsKey a.name.toList) :
    ∀ p ∈ properties, UncutName p.1 := by
  intro p hp
  by_cases hunnamed : propName p.1 = ""
  · intro c hc
    rw [hunnamed] at hc
    cases hc
  · have hmem : Attribute.mk (propName p.1) p.2.attributeValue ∈ namedProperties properties :=
      List.mem_map.mpr ⟨p, List.mem_filter.mpr ⟨hp, by simpa using hunnamed⟩, rfl⟩
    have hkey := h ⟨propName p.1, p.2.attributeValue⟩ hmem
    exact ((isKey_propName_iff p.1).mp hkey).2

/-- **The tag of a registered component is read back as its named properties if and only if** the
component has a name and no key gives a name that is cut. -/
theorem readSkeleton_emit_component_iff (e : Emitter) {f : Frame} (hvisible : f.visible = true)
    (hmode : e.options.instances = .registry) (hdepth : 0 < e.options.maxDepth)
    (hregistered : e.registry.contains (normalizeName f.name) = true) (children : List Node)
    (properties : List (String × Property)) (parent : Option Node) :
    readSkeleton e.options.flavor (e.emit (.component f children properties) parent) =
        some (.component (normalizeName f.name) (namedProperties properties)) ↔
      normalizeName f.name ≠ "" ∧ ∀ p ∈ properties, UncutName p.1 := by
  rw [emit_registered e hvisible hmode hdepth hregistered]
  constructor
  · intro h
    -- no text at all is read as a component with another kind of names
    obtain ⟨hname, hkeys⟩ := isTagName_of_readSkeleton h
    refine ⟨fun hempty => ?_, uncutName_of_isKey hkeys⟩
    rw [hempty] at hname
    exact hname.1 rfl
  · rintro ⟨hname, hkeys⟩
    have htag : IsTagName (normalizeName f.name).toList :=
      ⟨by simpa using hname, fun c => isAlphanum_of_mem_normalizeName⟩
    have hshows : Markup.Shows e.options.flavor
        (.component (normalizeName f.name) (attributes properties))
        (.component (normalizeName f.name) (attributes properties)) :=
      .component htag (isReadable_attributes hkeys)
    rw [hshows.readSkeleton, attributes_eq]

/-- A button with a property without a name and two whose values hold quotes and brackets. -/
theorem readSkeleton_emit_component_button :
    readSkeleton .html
        ((ofRegistry (.register .empty ⟨"Button", []⟩)).emit
          (.component (.named "Button") []
            [("Label#1:2", ⟨.text, .string "\"1\" > 0"⟩), (" #3", ⟨.text, .null⟩),
              ("Is On", ⟨.boolean, .string "true "⟩)])
          none) =
      some (.component "Button"
        [⟨"label", .quoted "\"1\" > 0"⟩, ⟨"isOn", .expression "true"⟩]) := by
  have hnamed : namedProperties
      [("Label#1:2", ⟨.text, .string "\"1\" > 0"⟩), (" #3", ⟨.text, .null⟩),
        ("Is On", ⟨.boolean, .string "true "⟩)] =
      [⟨"label", .quoted "\"1\" > 0"⟩, ⟨"isOn", .expression "true"⟩] := by decide +kernel
  rw [← hnamed]
  exact (readSkeleton_emit_component_iff (ofRegistry (.register .empty ⟨"Button", []⟩)) rfl rfl
    (by decide) rfl [] _ none).mpr ⟨by decide, by decide +kernel⟩

/-- A key with a bracket ends the tag: nothing is read. -/
theorem readSkeleton_emit_component_bracket :
    readSkeleton .html
        ((ofRegistry (.register .empty ⟨"Button", []⟩)).emit
          (.component (.named "Button") [] [("a>b", ⟨.text, .string "x"⟩)]) none) ≠
      some (.component "Button" (namedProperties [("a>b", ⟨.text, .string "x"⟩)])) := by
  have htext : (ofRegistry (.register .empty ⟨"Button", []⟩)).emit
      (.component (.named "Button") [] [("a>b", ⟨.text, .string "x"⟩)]) none =
        "<Button a>b=\"x\" />" := by decide +kernel
  have hread : readSkeleton .html "<Button a>b=\"x\" />" = none := by rfl
  rw [htext, hread]
  nofun

end Emitter

end SceneMarkup
