import SceneMarkup.Unicode.Words

/-!
# The words of a text

A text is its words with blanks around them: `IsSpaced` says how, and every text is so in one way
(`isSpaced_iff_words`). Everything about words comes from what a blank does to them
(`words_append_blank`).
-/

namespace SceneMarkup.Unicode

/-- A word is not empty and holds no blank. -/
def IsWord (word : List Char) : Prop := word ≠ [] ∧ ∀ c ∈ word, isBlank c = false

/-- The words that a text holds, in their order: any blanks may stand in front of a word and behind
it, and one at least between two words. -/
inductive IsSpaced : List (List Char) → List Char → Prop where
  | nil : IsSpaced [] []
  | blank {c : Char} {words : List (List Char)} {text : List Char} (hc : isBlank c = true)
      (h : IsSpaced words text) : IsSpaced words (c :: text)
  | last {word : List Char} (hword : IsWord word) : IsSpaced [word] word
  | word {c : Char} {word : List Char} {words : List (List Char)} {text : List Char}
      (hword : IsWord word) (hc : isBlank c = true) (h : IsSpaced words text) :
      IsSpaced (word :: words) (word ++ c :: text)

theorem IsWord.cons {c : Char} {word : List Char} (hc : isBlank c = false) (h : IsWord word) :
    IsWord (c :: word) :=
  ⟨List.cons_ne_nil c word, List.forall_mem_cons.mpr ⟨hc, h.2⟩⟩

theorem isWord_singleton {c : Char} (hc : isBlank c = false) : IsWord [c] :=
  ⟨List.cons_ne_nil c [], List.forall_mem_singleton.mpr hc⟩

/-- In front of a text, a character that is no blank begins a word or goes on with the first one. -/
theorem IsSpaced.exists_cons {c : Char} (hc : isBlank c = false) {words : List (List Char)}
    {text : List Char} (h : IsSpaced words text) : ∃ words', IsSpaced words' (c :: text) := by
  cases h with
  | nil => exact ⟨_, .last (isWord_singleton hc)⟩
  | blank hd h => exact ⟨_, .word (isWord_singleton hc) hd h⟩
  | last hword => exact ⟨_, .last (hword.cons hc)⟩
  | word hword hd h => exact ⟨_, .word (hword.cons hc) hd h⟩

theorem IsSpaced.isWord {ws : List (List Char)} {text : List Char} (h : IsSpaced ws text) :
    ∀ word ∈ ws, IsWord word ∧ word ⊆ text := by
  induction h with
  | nil => exact List.forall_mem_nil _
  | blank _ _ ih =>
    intro word hword
    exact ⟨(ih word hword).1, List.subset_cons_of_subset _ (ih word hword).2⟩
  | last hword => exact List.forall_mem_singleton.mpr ⟨hword, List.Subset.refl _⟩
  | word hfirst _ _ ih =>
    refine List.forall_mem_cons.mpr ⟨⟨hfirst, List.subset_append_left _ _⟩, fun word hword => ?_⟩
    refine ⟨(ih word hword).1, List.subset_append_of_subset_right _ ?_⟩
    exact List.subset_cons_of_subset _ (ih word hword).2

theorem exists_isSpaced (text : List Char) : ∃ words, IsSpaced words text := by
  induction text with
  | nil => exact ⟨_, .nil⟩
  | cons c text ih =>
    obtain ⟨words, h⟩ := ih
    by_cases hc : isBlank c = true
    · exact ⟨words, .blank hc h⟩
    · exact h.exists_cons (by simpa using hc)

/-! ## Segments -/

/-- What stands between the blanks of a text, empty or not. -/
def segments (text : List Char) : List (List Char) :=
  text.foldr (fun c rest => if isBlank c then [] :: rest else (c :: rest.headD []) :: rest.tail)
    [[]]

theorem words_eq (text : List Char) : words text = (segments text).filter (!·.isEmpty) := rfl

theorem segments_ne_nil (text : List Char) : segments text ≠ [] := by
  cases text with
  | nil => exact List.cons_ne_nil _ _
  | cons c text =>
    rw [segments, List.foldr_cons]
    split
    · exact List.cons_ne_nil _ _
    · exact List.cons_ne_nil _ _

theorem segments_cons_blank {c : Char} (hc : isBlank c = true) (text : List Char) :
    segments (c :: text) = [] :: segments text := by
  rw [segments, List.foldr_cons, if_pos hc, segments]

theorem segments_cons {c : Char} (hc : isBlank c = false) (text : List Char) :
    segments (c :: text) = (c :: (segments text).headD []) :: (segments text).tail := by
  rw [segments, List.foldr_cons, if_neg (by simp [hc]), segments]

theorem segments_append_blank {c : Char} (hc : isBlank c = true) (before after : List Char) :
    segments (before ++ c :: after) = segments before ++ segments after := by
  induction before with
  | nil => exact segments_cons_blank hc after
  | cons d before ih =>
    by_cases hd : isBlank d = true
    · rw [List.cons_append, segments_cons_blank hd, ih, segments_cons_blank hd, List.cons_append]
    · obtain ⟨segment, more, hsegments⟩ := List.exists_cons_of_ne_nil (segments_ne_nil before)
      have hd : isBlank d = false := by simpa using hd
      rw [List.cons_append, segments_cons hd, ih, segments_cons hd, hsegments]
      rfl

theorem segments_of_not_blank {word : List Char} (h : ∀ c ∈ word, isBlank c = false) :
    segments word = [word] := by
  induction word with
  | nil => rfl
  | cons c word ih =>
    obtain ⟨hc, hword⟩ := List.forall_mem_cons.mp h
    rw [segments_cons hc, ih hword]
    rfl

/-! ## Words -/

theorem words_append_blank {c : Char} (hc : isBlank c = true) (before after : List Char) :
    words (before ++ c :: after) = words before ++ words after := by
  rw [words_eq, segments_append_blank hc, List.filter_append, ← words_eq, ← words_eq]

theorem words_cons_blank {c : Char} (hc : isBlank c = true) (text : List Char) :
    words (c :: text) = words text :=
  words_append_blank hc [] text

theorem words_of_isWord {word : List Char} (h : IsWord word) : words word = [word] := by
  rw [words_eq, segments_of_not_blank h.2, List.filter_cons_of_pos (by simpa using h.1)]
  rfl

theorem IsSpaced.words_eq {ws : List (List Char)} {text : List Char} (h : IsSpaced ws text) :
    words text = ws := by
  induction h with
  | nil => rfl
  | blank hc _ ih => rw [words_cons_blank hc, ih]
  | last hword => exact words_of_isWord hword
  | word hword hc _ ih =>
    rw [words_append_blank hc, words_of_isWord hword, ih]
    rfl

theorem isSpaced_iff_words {ws : List (List Char)} {text : List Char} :
    IsSpaced ws text ↔ words text = ws := by
  refine ⟨IsSpaced.words_eq, ?_⟩
  rintro rfl
  obtain ⟨ws, h⟩ := exists_isSpaced text
  rwa [h.words_eq]

theorem words_eq_nil_iff {text : List Char} : words text = [] ↔ ∀ c ∈ text, isBlank c = true := by
  rw [← isSpaced_iff_words]
  constructor
  · intro h
    generalize hws : ([] : List (List Char)) = ws at h
    induction h with
    | nil => exact List.forall_mem_nil _
    | blank hc _ ih => exact List.forall_mem_cons.mpr ⟨hc, ih hws⟩
    | last => cases hws
    | word => cases hws
  · intro h
    induction text with
    | nil => exact .nil
    | cons c text ih =>
      obtain ⟨hc, htext⟩ := List.forall_mem_cons.mp h
      exact .blank hc (ih htext)

theorem isWord_of_mem_words {text word : List Char} (h : word ∈ words text) :
    IsWord word ∧ word ⊆ text :=
  (isSpaced_iff_words.mpr rfl).isWord word h

theorem ne_nil_of_mem_words {text word : List Char} (h : word ∈ words text) : word ≠ [] :=
  (isWord_of_mem_words h).1.1

theorem isBlank_of_mem_words {text word : List Char} (hword : word ∈ words text) {c : Char}
    (hc : c ∈ word) : isBlank c = false :=
  (isWord_of_mem_words hword).1.2 c hc

theorem mem_of_mem_words {text word : List Char} (hword : word ∈ words text) {c : Char}
    (hc : c ∈ word) : c ∈ text :=
  (isWord_of_mem_words hword).2 hc

end SceneMarkup.Unicode
