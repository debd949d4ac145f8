import Mathlib.Data.List.Pairwise
import SceneMarkup.Proofs.Emit.ComponentTag
import SceneMarkup.Proofs.Json.DistinctKeys

/-!
# Names of attributes that occur twice

Every property with a name is written, in the order of the bag: so the tag of a component holds a
name as often as there are keys that give it, and holds one twice just if two keys give it
(`nodup_names_emit_iff`). Keys that differ after their first `#` alone are such keys.
-/

namespace SceneMarkup

open Json (DistinctKeys)

def attributeNames (properties : List (String × Property)) : List String :=
  (namedProperties properties).map Attribute.name

theorem attributeNames_eq (properties : List (String × Property)) :
    attributeNames properties = (properties.map fun p => propName p.1).filter (· ≠ "") := by
  rw [attributeNames, namedProperties, List.map_map, List.filter_map]
  rfl

/-- A name is written as often as there are keys that give it. -/
theorem count_attributeNames {name : String} (h : name ≠ "")
    (properties : List (String × Property)) :
    (attributeNames properties).count name = properties.countP fun p => propName p.1 = name := by
  rw [attributeNames_eq, List.count_filter (by simpa using h), List.count_eq_countP,
    List.countP_map]
  rfl

/-! ## Keys with names of their own -/

/-- Two properties of a bag have different names, or none. -/
def NamedApart (p q : String × Property) : Prop := propName p.1 = propName q.1 → propName p.1 = ""

instance : Std.Symm NamedApart := ⟨fun _ _ h heq => heq.trans (h heq.symm)⟩

theorem nodup_attributeNames_iff_pairwise {properties : List (String × Property)} :
    (attributeNames properties).Nodup ↔ properties.Pairwise NamedApart := by
  rw [attributeNames_eq, List.Nodup, List.pairwise_filter, List.pairwise_map]
  refine List.Pairwise.iff ?_
  intro p q
  simp only [decide_eq_true_eq, NamedApart]
  constructor
  · intro h heq
    by_contra hne
    exact h hne (heq ▸ hne) heq
  · intro h hp _ heq
    exact hp (h heq)

def KeysNamedApart (properties : List (String × Property)) : Prop :=
  ∀ p ∈ properties, ∀ q ∈ properties, propName p.1 = propName q.1 → propName p.1 ≠ "" → p.1 = q.1

instance (properties : List (String × Property)) : Decidable (KeysNamedApart properties) :=
  inferInstanceAs (Decidable (∀ p ∈ properties, ∀ q ∈ properties, _))

theorem nodup_attributeNames_iff {properties : List (String × Property)}
    (h : DistinctKeys properties) :
    (attributeNames properties).Nodup ↔ KeysNamedApart properties := by
  rw [nodup_attributeNames_iff_pairwise]
  rw [DistinctKeys, List.Nodup, List.pairwise_map] at h
  constructor
  · intro hpairwise p hp q hq heq hne
    by_contra hdistinct
    have hapart : NamedApart p q :=
      hpairwise.forall hp hq fun hpq => hdistinct (congrArg Prod.fst hpq)
    exact hne (hapart heq)
  · intro hkeys
    refine List.Pairwise.imp_of_mem ?_ h
    intro p q hp hq hdistinct heq
    by_contra hne
    exact hdistinct (hkeys p hp q hq heq hne)

/-! ## Tags -/

namespace Emitter

/-- **The tag of a component holds no attribute twice if and only if** no two keys of its
properties give the same name; it holds each name as often as there are keys that give it. -/
theorem nodup_names_emit_iff (e : Emitter) {f : Frame} (hvisible : f.visible = true)
    (hmode : e.options.instances = .registry) (hdepth : 0 < e.options.maxDepth)
    (hregistered : e.registry.contains (normalizeName f.name) = true) (children : List Node)
    {properties : List (String × Property)} (hkeys : DistinctKeys properties)
    (parent : Option Node) :
    e.emit (.component f children properties) parent =
        Markup.componentTag (normalizeName f.name) (namedProperties properties) ∧
      (∀ name, name ≠ "" → (attributeNames properties).count name =
        properties.countP fun p => propName p.1 = name) ∧
      ((attributeNames properties).Nodup ↔ KeysNamedApart properties) := by
  refine ⟨?_, fun name hname => count_attributeNames hname properties,
    nodup_attributeNames_iff hkeys⟩
  rw [emit_registered e hvisible hmode hdepth hregistered, attributes_eq, Markup.render]

/-- Of three keys of a button, two give names, which differ, and one gives none. -/
theorem nodup_names_emit_button :
    (ofRegistry (.register .empty ⟨"Button", []⟩)).emit
        (.component (.named "Button") []
          [("Label#1:2", ⟨.text, .string "a"⟩), (" #3", ⟨.text, .null⟩),
            ("Is On", ⟨.boolean, .bool true⟩)])
        none =
      Markup.componentTag "Button" [⟨"label", .quoted "a"⟩, ⟨"isOn", .expression "true"⟩] ∧
    (attributeNames [("Label#1:2", ⟨.text, .string "a"⟩), (" #3", ⟨.text, .null⟩),
      ("Is On", ⟨.boolean, .bool true⟩)]).Nodup := by
  have hnamed : namedProperties
      [("Label#1:2", ⟨.text, .string "a"⟩), (" #3", ⟨.text, .null⟩),
        ("Is On", ⟨.boolean, .bool true⟩)] =
      [⟨"label", .quoted "a"⟩, ⟨"isOn", .expression "true"⟩] := by decide +kernel
  have hkeys : DistinctKeys [("Label#1:2", Property.mk .text (.string "a")),
      (" #3", ⟨.text, .null⟩), ("Is On", ⟨.boolean, .bool true⟩)] := by decide
  obtain ⟨htag, -, hnodup⟩ :=
    nodup_names_emit_iff (ofRegistry (.register .empty ⟨"Button", []⟩)) (f := .named "Button")
      rfl rfl (by decide) rfl [] hkeys none
  exact ⟨hnamed ▸ htag, hnodup.mpr (by decide +kernel)⟩

/-- Keys that differ after the `#` alone give one name, which is written twice. -/
theorem not_nodup_names_emit_label :
    DistinctKeys [("Label#1:2", Property.mk .text (.string "a")),
        ("Label#3:4", ⟨.text, .string "b"⟩)] ∧
      (ofRegistry (.register .empty ⟨"Button", []⟩)).emit
        (.component (.named "Button") []
          [("Label#1:2", ⟨.text, .string "a"⟩), ("Label#3:4", ⟨.text, .string "b"⟩)])
        none = "<Button label=\"a\" label=\"b\" />" ∧
      ¬ (attributeNames
        [("Label#1:2", ⟨.text, .string "a"⟩), ("Label#3:4", ⟨.text, .string "b"⟩)]).Nodup :=
  ⟨by decide, by decide +kernel, by decide +kernel⟩

end Emitter

end SceneMarkup
