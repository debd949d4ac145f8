import SceneMarkup.Markup.Indent

/-!
# Pieces of a text

The pieces of a text put together are the text (`flatten_pieces`). A text is cut between two parts
where the first ends a tag and the second begins one (`pieces_append`), and it is one piece just if
no `>` in it is followed by a `<` (`pieces_eq_singleton_iff`).
-/

namespace SceneMarkup.Markup

variable {a b text : List Char}

theorem pieces_cons (c : Char) (text : List Char) :
    pieces (c :: text) = consPiece c (pieces text) := rfl

theorem flatten_consPiece (c : Char) (lines : List (List Char)) :
    (consPiece c lines).flatten = c :: lines.flatten := by
  cases lines with
  | nil => rfl
  | cons line rest =>
    simp only [consPiece]
    split <;> rfl

theorem flatten_pieces (text : List Char) : (pieces text).flatten = text := by
  induction text with
  | nil => rfl
  | cons c rest ih => rw [pieces_cons, flatten_consPiece, ih]

theorem exists_pieces_eq_cons (text : List Char) :
    ∃ line rest, pieces text = line :: rest ∧ line.head? = text.head? := by
  cases text with
  | nil => exact ⟨[], [], rfl, rfl⟩
  | cons c text =>
    rw [pieces_cons]
    cases pieces text with
    | nil => exact ⟨[c], [], rfl, rfl⟩
    | cons line rest =>
      simp only [consPiece]
      split
      · exact ⟨[c], line :: rest, rfl, rfl⟩
      · exact ⟨c :: line, rest, rfl, rfl⟩

theorem consPiece_append {lines : List (List Char)} (h : lines ≠ []) (c : Char)
    (more : List (List Char)) : consPiece c (lines ++ more) = consPiece c lines ++ more := by
  cases lines with
  | nil => exact absurd rfl h
  | cons line rest =>
    simp only [List.cons_append, consPiece]
    split <;> rfl

/-- A text is cut between the end of a tag and the beginning of another. -/
theorem pieces_append (ha : a.getLast? = some '>') (hb : b.head? = some '<') :
    pieces (a ++ b) = pieces a ++ pieces b := by
  induction a with
  | nil => cases ha
  | cons c rest ih =>
    rw [List.cons_append, pieces_cons, pieces_cons]
    cases rest with
    | nil =>
      obtain rfl : c = '>' := by simpa using ha
      obtain ⟨line, more, hpieces, hline⟩ := exists_pieces_eq_cons b
      rw [List.nil_append, hpieces, consPiece, if_pos ⟨rfl, hline.trans hb⟩]
      rfl
    | cons d rest =>
      rw [ih (by simpa using ha), consPiece_append (pieces_ne_nil _)]

/-! ## Uncut texts -/

theorem pair_append_iff {c d : Char} :
    [c, d] <:+: a ++ b ↔
      [c, d] <:+: a ∨ [c, d] <:+: b ∨ a.getLast? = some c ∧ b.head? = some d := by
  rw [List.infix_append_iff_ne_nil]
  refine or_congr Iff.rfl (or_congr Iff.rfl ⟨?_, ?_⟩)
  · rintro ⟨l₁, l₂, h₁, h₂, heq, ⟨before, rfl⟩, ⟨after, rfl⟩⟩
    obtain ⟨x, l₁, rfl⟩ := List.exists_cons_of_ne_nil h₁
    obtain ⟨y, l₂, rfl⟩ := List.exists_cons_of_ne_nil h₂
    cases l₁ with
    | nil => cases heq; simp
    | cons z rest => simp at heq
  · rintro ⟨hlast, hfirst⟩
    obtain ⟨before, rfl⟩ := List.getLast?_eq_some_iff.mp hlast
    obtain ⟨after, rfl⟩ := List.head?_eq_some_iff.mp hfirst
    exact ⟨[c], [d], by simp, by simp, rfl, List.suffix_append .., by simp⟩

def Uncut (text : List Char) : Prop := ¬ ['>', '<'] <:+: text

instance (text : List Char) : Decidable (Uncut text) := inferInstanceAs (Decidable (¬ _))

theorem uncut_cons_iff {c : Char} :
    Uncut (c :: text) ↔ ¬ (c = '>' ∧ text.head? = some '<') ∧ Uncut text := by
  have hinitial : ['>', '<'] <+: c :: text ↔ c = '>' ∧ text.head? = some '<' := by
    cases text with
    | nil => simp [List.cons_prefix_cons]
    | cons d rest => simp [List.cons_prefix_cons, eq_comm]
  rw [Uncut, List.infix_cons_iff, hinitial, not_or, Uncut]

theorem pieces_eq_singleton_iff : pieces text = [text] ↔ Uncut text := by
  induction text with
  | nil => simp [pieces, Uncut]
  | cons c rest ih =>
    obtain ⟨line, more, hpieces, hline⟩ := exists_pieces_eq_cons rest
    rw [uncut_cons_iff, ← ih, pieces_cons, hpieces, consPiece, hline]
    split
    · rename_i hcut
      simp [hcut]
    · rename_i hcut
      simp [hcut]

theorem uncut_append_iff :
    Uncut (a ++ b) ↔ Uncut a ∧ Uncut b ∧ ¬ (a.getLast? = some '>' ∧ b.head? = some '<') := by
  rw [Uncut, Uncut, Uncut, pair_append_iff, not_or, not_or]

theorem uncut_of_not_mem (h : '>' ∉ text) : Uncut text := fun hpart =>
  h (hpart.subset (.head _))

theorem uncut_of_mem_pieces {line : List Char} (h : line ∈ pieces text) : Uncut line := by
  induction text generalizing line with
  | nil =>
    obtain rfl : line = [] := List.mem_singleton.mp h
    decide
  | cons c rest ih =>
    rw [pieces_cons] at h
    cases hpieces : pieces rest with
    | nil => exact absurd hpieces (pieces_ne_nil rest)
    | cons first more =>
      rw [hpieces] at h ih
      simp only [consPiece] at h
      split at h
      · rcases List.mem_cons.mp h with rfl | hmem
        · exact uncut_cons_iff.mpr ⟨by simp, by decide⟩
        · exact ih hmem
      · rename_i hcut
        rcases List.mem_cons.mp h with rfl | hmem
        · exact uncut_cons_iff.mpr ⟨hcut, ih (.head _)⟩
        · exact ih (.tail _ hmem)

/-! ## Parts of a text -/

/-- A text that is nothing, or begins and ends with a tag. -/
structure IsBounded (text : List Char) : Prop where
  begins : ∀ c ∈ text.head?, c = '<'
  ends : ∀ c ∈ text.getLast?, c = '>'

theorem forall_mem_head?_append {p : Char → Prop} (ha : ∀ c ∈ a.head?, p c)
    (hb : ∀ c ∈ b.head?, p c) : ∀ c ∈ (a ++ b).head?, p c := by
  intro c hc
  rw [List.head?_append, Option.mem_def, Option.or_eq_some_iff] at hc
  exact hc.elim (ha c) fun h => hb c h.2

theorem forall_mem_getLast?_append {p : Char → Prop} (ha : ∀ c ∈ a.getLast?, p c)
    (hb : ∀ c ∈ b.getLast?, p c) : ∀ c ∈ (a ++ b).getLast?, p c := by
  intro c hc
  rw [List.getLast?_append, Option.mem_def, Option.or_eq_some_iff] at hc
  exact hc.elim (hb c) fun h => ha c h.2

theorem getLast?_tag (inner : List Char) : ('<' :: (inner ++ ['>'])).getLast? = some '>' := by
  rw [← List.cons_append, List.getLast?_concat]

theorem isBounded_tag (inner : List Char) : IsBounded ('<' :: (inner ++ ['>'])) where
  begins := by
    rintro c ⟨⟩
    rfl
  ends := by
    intro c hc
    rw [getLast?_tag] at hc
    cases hc
    rfl

theorem IsBounded.nil : IsBounded [] := ⟨nofun, nofun⟩

theorem IsBounded.append (ha : IsBounded a) (hb : IsBounded b) : IsBounded (a ++ b) :=
  ⟨forall_mem_head?_append ha.begins hb.begins, forall_mem_getLast?_append ha.ends hb.ends⟩

theorem exists_pieces_around (ha : IsBounded a) (hb : IsBounded b) :
    ∃ before after, ∀ tag : List Char, tag.head? = some '<' → tag.getLast? = some '>' →
      pieces (a ++ tag ++ b) = before ++ pieces tag ++ after := by
  have hbefore : ∃ before, ∀ rest : List Char, rest.head? = some '<' →
      pieces (a ++ rest) = before ++ pieces rest := by
    cases hlast : a.getLast? with
    | none =>
      obtain rfl := List.getLast?_eq_none_iff.mp hlast
      exact ⟨[], fun rest _ => rfl⟩
    | some c =>
      obtain rfl := ha.ends c hlast
      exact ⟨pieces a, fun rest hrest => pieces_append hlast hrest⟩
  have hafter : ∃ after, ∀ tag : List Char, tag.getLast? = some '>' →
      pieces (tag ++ b) = pieces tag ++ after := by
    cases hfirst : b.head? with
    | none =>
      obtain rfl := List.head?_eq_none_iff.mp hfirst
      exact ⟨[], fun tag _ => by rw [List.append_nil, List.append_nil]⟩
    | some c =>
      obtain rfl := hb.begins c hfirst
      exact ⟨pieces b, fun tag htag => pieces_append htag hfirst⟩
  obtain ⟨before, hbefore⟩ := hbefore
  obtain ⟨after, hafter⟩ := hafter
  refine ⟨before, after, fun tag hfirst hlast => ?_⟩
  have hrest : (tag ++ b).head? = some '<' := by rw [List.head?_append, hfirst]; rfl
  rw [List.append_assoc, hbefore _ hrest, hafter tag hlast, List.append_assoc]

end SceneMarkup.Markup
