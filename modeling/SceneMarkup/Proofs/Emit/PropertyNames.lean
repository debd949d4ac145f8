import Mathlib.Data.List.TakeWhile
import SceneMarkup.Proofs.Emit.Attributes
import SceneMarkup.Proofs.Unicode.SmallForms

/-!
# Property names are normal forms

The name of a key comes from the words before its first `#` alone, and is one word without a `#`
that starts small: so it is the name of itself (`propName_isNormalForm`).
-/

namespace SceneMarkup

open Unicode

def labelOf (key : String) : List Char := key.toList.takeWhile (· != '#')

theorem propName_eq (key : String) :
    propName key = String.ofList (joinWords (words (labelOf key))) := rfl

theorem toList_propName (key : String) :
    (propName key).toList = joinWords (words (labelOf key)) := by
  rw [propName_eq, String.toList_ofList]

/-- A suffix from a `#` on is no part of the label, wherever the first `#` is. -/
theorem labelOf_append_hash (key suffix : String) :
    labelOf (key ++ "#" ++ suffix) = labelOf key := by
  simp only [labelOf, String.toList_append]
  induction key.toList with
  | nil => rfl
  | cons c rest ih =>
    by_cases hc : c = '#'
    · subst hc
      rfl
    · rw [List.cons_append, List.cons_append, List.takeWhile_cons_of_pos (by simpa using hc), ih,
        List.takeWhile_cons_of_pos (by simpa using hc)]

theorem labelOf_of_hash_not_mem {key : String} (h : '#' ∉ key.toList) : labelOf key = key.toList :=
  List.takeWhile_eq_self_iff.mpr fun c hc => by simpa using ne_of_mem_of_not_mem hc h

/-! ## Joined words -/

theorem joinWords_eq_cons {first : List Char} (hfirst : first ≠ []) (rest : List (List Char)) :
    ∃ d more, joinWords (first :: rest) = d :: more ∧ small d = [d] := by
  obtain ⟨c, tail, rfl⟩ := List.exists_cons_of_ne_nil hfirst
  obtain ⟨d, form, hsmall⟩ := List.exists_cons_of_ne_nil (small_ne_nil c)
  refine ⟨d, form ++ tail ++ rest.flatMap (recase capital), ?_, small_eq_self hsmall⟩
  rw [joinWords, recase, hsmall, List.cons_append, List.cons_append]

theorem joinWords_singleton {d : Char} (h : small d = [d]) (more : List Char) :
    joinWords [d :: more] = d :: more := by
  rw [joinWords, recase, h, List.flatMap_nil, List.append_nil, List.singleton_append]

theorem words_eq_nil_or_joinWords_eq_cons (text : List Char) :
    words text = [] ∨ ∃ d more, joinWords (words text) = d :: more ∧ small d = [d] := by
  cases hwords : words text with
  | nil => exact .inl rfl
  | cons first rest =>
    have hfirst : first ≠ [] := ne_nil_of_mem_words (by rw [hwords]; exact .head _)
    exact .inr (joinWords_eq_cons hfirst rest)

theorem joinWords_words_eq_nil_iff (text : List Char) :
    joinWords (words text) = [] ↔ ∀ c ∈ text, isBlank c = true := by
  rw [← words_eq_nil_iff]
  rcases words_eq_nil_or_joinWords_eq_cons text with hnone | ⟨d, more, hjoined, -⟩
  · rw [hnone]
    exact iff_of_true rfl rfl
  · rw [hjoined]
    refine iff_of_false (List.cons_ne_nil _ _) fun hnone => ?_
    rw [hnone] at hjoined
    exact absurd hjoined.symm (List.cons_ne_nil _ _)

/-! ## Names -/

theorem propName_eq_empty_iff (key : String) :
    propName key = "" ↔ ∀ c ∈ labelOf key, isBlank c = true := by
  rw [← String.toList_eq_nil_iff, toList_propName, joinWords_words_eq_nil_iff]

theorem propName_eq_of_isSpaced {key other : String} {ws : List (List Char)}
    (hkey : IsSpaced ws (labelOf key)) (hother : IsSpaced ws (labelOf other)) :
    propName other = propName key := by
  rw [propName_eq, propName_eq, hkey.words_eq, hother.words_eq]

theorem words_labelOf_propName {key : String} (h : propName key ≠ "") :
    words (labelOf (propName key)) = [(propName key).toList] := by
  rw [labelOf_of_hash_not_mem (hash_not_mem_propName key)]
  exact words_of_isWord ⟨by simpa using h, fun c hc => isBlank_of_mem_propName hc⟩

theorem propName_propName (key : String) : propName (propName key) = propName key := by
  by_cases hempty : propName key = ""
  · rw [hempty]
    rfl
  · rw [← String.toList_inj, toList_propName, words_labelOf_propName hempty, toList_propName]
    rcases words_eq_nil_or_joinWords_eq_cons (labelOf key) with hnone | ⟨d, more, hjoined, hsmall⟩
    · exact absurd (by rw [propName_eq, hnone]; rfl) hempty
    · rw [hjoined, joinWords_singleton hsmall]

/-- **The name of a key is a normal form.** It does not depend on what follows a `#`, and on the
words before the first one alone; it holds no blank and no `#`, is empty just if nothing but blanks
precedes the first `#`, and is its own name. -/
theorem propName_isNormalForm (key : String) :
    (∀ suffix, propName (key ++ "#" ++ suffix) = propName key) ∧
      (∃ ws, IsSpaced ws (labelOf key) ∧
        ∀ other, IsSpaced ws (labelOf other) → propName other = propName key) ∧
      (∀ c ∈ (propName key).toList, isBlank c = false ∧ c ≠ '#') ∧
      (propName key = "" ↔ ∀ c ∈ labelOf key, isBlank c = true) ∧
      propName (propName key) = propName key := by
  refine ⟨fun suffix => ?_, ?_, fun c hc => ⟨isBlank_of_mem_propName hc, ?_⟩,
    propName_eq_empty_iff key, propName_propName key⟩
  · rw [propName_eq, labelOf_append_hash, ← propName_eq]
  · obtain ⟨ws, hkey⟩ := exists_isSpaced (labelOf key)
    exact ⟨ws, hkey, fun other hother => propName_eq_of_isSpaced hkey hother⟩
  · exact ne_of_mem_of_not_mem hc (hash_not_mem_propName key)

/-- A key whose first character has a small form of two, with other blanks and another suffix. -/
theorem propName_isNormalForm_spaced :
    propName "\u2003İcon  URL\t#7#8" = propName "İcon URL" ∧
      propName (propName "İcon URL") = propName "İcon URL" := by
  obtain ⟨-, ⟨ws, hkey, hother⟩, -, -, hself⟩ := propName_isNormalForm "İcon URL"
  refine ⟨hother _ ?_, hself⟩
  rw [isSpaced_iff_words] at hkey ⊢
  rw [← hkey]
  decide +kernel

end SceneMarkup
