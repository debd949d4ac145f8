import SceneMarkup.Emit.Emitter
import SceneMarkup.Proofs.Decimal.Characters
import SceneMarkup.Proofs.Markup.Reading
import SceneMarkup.Proofs.Unicode.Case
import SceneMarkup.Proofs.Unicode.Words

/-!
# Attributes of properties

The name of a property holds no blank, so it is the name of an attribute just if it holds none of
the characters that names are cut at (`isKey_propName_iff`), and it does not if the key holds none
(`uncutName_of_uncut`). Expressions are made of figures alone.
-/

namespace SceneMarkup

open Unicode

theorem mem_recase {form : Char → List Char} {word : List Char} {d : Char}
    (h : d ∈ recase form word) : d ∈ word ∨ ∃ c ∈ word, d ∈ form c := by
  cases word with
  | nil => exact .inl h
  | cons c rest =>
    rcases List.mem_append.mp h with hform | hrest
    · exact .inr ⟨c, .head _, hform⟩
    · exact .inl (.tail _ hrest)

theorem mem_joinWords {words : List (List Char)} {d : Char} (h : d ∈ joinWords words) :
    ∃ word ∈ words, d ∈ word ∨ ∃ c ∈ word, d ∈ small c ∨ d ∈ capital c := by
  cases words with
  | nil => exact absurd h List.not_mem_nil
  | cons first rest =>
    rcases List.mem_append.mp h with hfirst | hrest
    · refine ⟨first, .head _, (mem_recase hfirst).imp_right ?_⟩
      rintro ⟨c, hc, hd⟩
      exact ⟨c, hc, .inl hd⟩
    · obtain ⟨word, hword, hmem⟩ := List.mem_flatMap.mp hrest
      refine ⟨word, .tail _ hword, (mem_recase hmem).imp_right ?_⟩
      rintro ⟨c, hc, hd⟩
      exact ⟨c, hc, .inr hd⟩

theorem isBlank_of_mem_propName {key : String} {c : Char} (h : c ∈ (propName key).toList) :
    isBlank c = false := by
  rw [propName, String.toList_ofList] at h
  obtain ⟨word, hword, hmem⟩ := mem_joinWords h
  rcases hmem with hmem | ⟨d, hd, hform | hform⟩
  · exact isBlank_of_mem_words hword hmem
  · exact isBlank_of_mem_small (isBlank_of_mem_words hword hd) hform
  · exact isBlank_of_mem_capital (isBlank_of_mem_words hword hd) hform

/-- No name that a property key gives is cut. -/
def UncutName (key : String) : Prop := ∀ c ∈ (propName key).toList, c ∉ Reader.delimiters

instance (key : String) : Decidable (UncutName key) :=
  decidable_of_iff ((propName key).toList.all (fun c => c ∉ Reader.delimiters) = true)
    (by simp only [UncutName, List.all_eq_true, decide_eq_true_eq])

def delimiterRanges : List (Nat × Nat) :=
  [(0x22, 0x22), (0x2F, 0x2F), (0x3C, 0x3E), (0x7B, 0x7B), (0x7D, 0x7D)]

theorem exists_delimiterRange {c : Char} (h : c ∈ Reader.delimiters) :
    ∃ r ∈ delimiterRanges, r.1 ≤ c.toNat ∧ c.toNat ≤ r.2 := by
  have hall : Reader.delimiters.all (fun c => delimiterRanges.any fun r =>
      decide (r.1 ≤ c.toNat) && decide (c.toNat ≤ r.2)) = true := by decide
  simpa using List.all_eq_true.mp hall c h

theorem avoids_delimiters : ∀ r ∈ delimiterRanges, 0 < r.1 ∧
    avoids smallRuns smallSequences r = true ∧ avoids capitalRuns capitalSequences r = true := by
  decide +kernel

/-- A character of a name whose code point no case table maps to from another one stands in the key,
whatever the case of the words is. -/
theorem mem_of_mem_propName {r : Nat × Nat} (hpos : 0 < r.1)
    (hsmall : avoids smallRuns smallSequences r = true)
    (hcapital : avoids capitalRuns capitalSequences r = true) {key : String} {d : Char}
    (hd : d ∈ (propName key).toList) (hlow : r.1 ≤ d.toNat) (hhigh : d.toNat ≤ r.2) :
    d ∈ key.toList.takeWhile (· != '#') := by
  rw [propName, String.toList_ofList] at hd
  obtain ⟨word, hword, hmem⟩ := mem_joinWords hd
  have hdword : d ∈ word := by
    rcases hmem with hmem | ⟨c, hc, hform | hform⟩
    · exact hmem
    · rwa [eq_of_mem_mapCase hsmall hpos hform hlow hhigh]
    · rwa [eq_of_mem_mapCase hcapital hpos hform hlow hhigh]
  exact mem_of_mem_words hword hdword

theorem uncutName_of_uncut {key : String} (h : ∀ c ∈ key.toList, c ∉ Reader.delimiters) :
    UncutName key := by
  intro d hd hdelimiter
  obtain ⟨r, hr, hlow, hhigh⟩ := exists_delimiterRange hdelimiter
  obtain ⟨hpos, hsmall, hcapital⟩ := avoids_delimiters r hr
  have hkey := mem_of_mem_propName hpos hsmall hcapital hd hlow hhigh
  exact h d ((List.takeWhile_prefix _).subset hkey) hdelimiter

theorem hash_not_mem_propName (key : String) : '#' ∉ (propName key).toList := by
  intro hmem
  have hkey := mem_of_mem_propName (r := (0x23, 0x23)) (by decide) (by decide +kernel)
    (by decide +kernel) hmem (by decide) (by decide)
  simpa using List.all_eq_true.mp List.all_takeWhile '#' hkey

theorem isKey_propName_iff (key : String) :
    Reader.IsKey (propName key).toList ↔ propName key ≠ "" ∧ UncutName key := by
  have hchar (c : Char) (hc : c ∈ (propName key).toList) :
      Reader.isKeyChar c = true ↔ c ∉ Reader.delimiters := by
    simp [Reader.isKeyChar, isBlank_of_mem_propName hc]
  rw [Reader.IsKey, UncutName, Ne, Ne, String.toList_eq_nil_iff]
  exact and_congr_right fun _ => forall₂_congr hchar

/-! ## Values -/

theorem Figures.isPlain {text : List Char} (h : Figures text) : Reader.IsPlain text := by
  intro c hc hmem
  have hfigure := h c hc
  revert hfigure
  simp only [List.mem_cons, List.not_mem_nil, or_false] at hmem
  rcases hmem with rfl | rfl | rfl <;> decide

theorem figures_of_readsAsExpression {text : List Char} (h : readsAsExpression text = true) :
    Figures text := by
  simp only [readsAsExpression, Bool.or_eq_true, beq_iff_eq] at h
  rcases h with (rfl | rfl) | hfloat
  · decide
  · decide
  · split at hfloat
    · rename_i hx
      exact figures_of_floatOfText hx
    · cases hfloat

theorem figures_expression {v : Json.Value} {text : String} (h : expression? v = some text) :
    Figures text.toList := by
  cases v with
  | bool b =>
    cases h
    rw [Json.Value.compact]
    cases b <;> decide
  | integer n => cases h; rw [Json.Value.compact]; exact figures_int n
  | float x => cases h; rw [Json.Value.compact]; exact Layout.figures_text _ x
  | string s =>
    simp only [expression?, Option.ite_none_right_eq_some, Option.some.injEq] at h
    obtain ⟨hreads, rfl⟩ := h
    rw [String.toList_ofList]
    exact figures_of_readsAsExpression hreads
  | null => cases h
  | array items => cases h
  | object members => cases h

theorem Property.figures_attributeValue {p : Property} {text : String}
    (h : p.attributeValue = .expression text) : Figures text.toList := by
  unfold Property.attributeValue at h
  have hvalue : expression? p.value = some text := by
    split at h
    · split at h <;> simp_all
    · split at h <;> simp_all
    · cases h
    · cases h
  exact figures_expression hvalue

/-! ## Property bags -/

/-- The properties whose keys give names, in their order, with the texts of their values. -/
def namedProperties (properties : List (String × Property)) : List Attribute :=
  (properties.filter fun p => propName p.1 ≠ "").map fun p =>
    ⟨propName p.1, p.2.attributeValue⟩

theorem attributes_eq (properties : List (String × Property)) :
    Emitter.attributes properties = namedProperties properties := by
  rw [namedProperties]
  induction properties with
  | nil => rfl
  | cons p rest ih =>
    rw [Emitter.attributes] at ih ⊢
    by_cases h : propName p.1 = ""
    · rw [List.filterMap_cons_none (by simp only [Property.attribute?, h, if_true]), ih,
        List.filter_cons_of_neg (by simpa using h)]
    · rw [List.filterMap_cons_some (by simp only [Property.attribute?, h, if_false]; rfl), ih,
        List.filter_cons_of_pos (by simpa using h), List.map_cons]

theorem isReadable_attribute {key : String} (hne : propName key ≠ "") (hkey : UncutName key)
    (p : Property) : (Attribute.mk (propName key) p.attributeValue).IsReadable where
  name := (isKey_propName_iff key).mpr ⟨hne, hkey⟩
  expression := fun _ htext => (Property.figures_attributeValue htext).isPlain

theorem isReadable_attributes {properties : List (String × Property)}
    (h : ∀ p ∈ properties, UncutName p.1) :
    ∀ a ∈ Emitter.attributes properties, a.IsReadable := by
  rw [attributes_eq, namedProperties]
  intro a ha
  obtain ⟨p, hp, rfl⟩ := List.mem_map.mp ha
  obtain ⟨hmem, hne⟩ := List.mem_filter.mp hp
  exact isReadable_attribute (by simpa using hne) (h p hmem) p.2

end SceneMarkup
