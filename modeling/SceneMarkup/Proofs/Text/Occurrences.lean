import Mathlib.Data.List.Infix
import SceneMarkup.Proofs.Text.Entities

/-!
# Occurrences of a part

`Text.occurrences` counts the places of a text where a part begins. The count is that of both sides
together where no occurrence can lie across (`occurrences_append`): the right side begins with a
character that the part does not hold.
-/

namespace SceneMarkup.Text

/-- The number of places where a part begins in a text. -/
def occurrences (part text : List Char) : Nat := text.tails.countP fun rest => part <+: rest

variable {part a b : List Char}

theorem occurrences_nil (h : part ≠ []) : occurrences part [] = 0 := by
  simp [occurrences, h]

theorem occurrences_cons (part : List Char) (c : Char) (text : List Char) :
    occurrences part (c :: text) =
      (if part <+: c :: text then 1 else 0) + occurrences part text := by
  rw [occurrences, List.tails_cons, List.countP_cons, Nat.add_comm]
  simp only [decide_eq_true_eq, occurrences]

theorem occurrences_cons_of_ne {c d : Char} (h : d ≠ c) (part text : List Char) :
    occurrences (c :: part) (d :: text) = occurrences (c :: part) text := by
  have hinitial : ¬ c :: part <+: d :: text := by
    rw [List.cons_prefix_cons]
    exact fun hstart => h hstart.1.symm
  rw [occurrences_cons, if_neg hinitial, Nat.zero_add]

theorem prefix_append_iff (h : ∀ c ∈ b.head?, c ∉ part) : part <+: a ++ b ↔ part <+: a := by
  refine ⟨fun hinitial => ?_, fun hinitial => hinitial.trans (List.prefix_append a b)⟩
  rcases Nat.le_total part.length a.length with hle | hle
  · exact List.prefix_of_prefix_length_le hinitial (List.prefix_append a b) hle
  · obtain ⟨more, rfl⟩ := List.prefix_of_prefix_length_le (List.prefix_append a b) hinitial hle
    rw [List.prefix_append_right_inj] at hinitial
    cases more with
    | nil => rw [List.append_nil]
    | cons c more =>
      -- the part would begin to the right as it ends to the left
      obtain ⟨rest, rfl⟩ := hinitial
      exact absurd (List.mem_append_right a (.head _)) (h c rfl)

theorem occurrences_append (hpart : part ≠ []) (h : ∀ c ∈ b.head?, c ∉ part) :
    occurrences part (a ++ b) = occurrences part a + occurrences part b := by
  induction a with
  | nil => rw [List.nil_append, occurrences_nil hpart, Nat.zero_add]
  | cons c a ih =>
    have hinitial : part <+: c :: a ++ b ↔ part <+: c :: a := prefix_append_iff h
    rw [List.cons_append] at hinitial ⊢
    rw [occurrences_cons, occurrences_cons, ih, Nat.add_assoc]
    simp only [hinitial]

/-- A character that a part does not hold parts the occurrences. -/
theorem occurrences_append_cons {c d : Char} (hd : d ∉ c :: part) (a b : List Char) :
    occurrences (c :: part) (a ++ d :: b) =
      occurrences (c :: part) a + occurrences (c :: part) b := by
  rw [occurrences_append (by simp) (by simpa using hd),
    occurrences_cons_of_ne (List.ne_of_not_mem_cons hd)]

theorem occurrences_eq_zero_iff : occurrences part a = 0 ↔ ¬ part <:+: a := by
  rw [occurrences, List.countP_eq_zero, List.infix_iff_prefix_suffix]
  simp only [List.mem_tails, decide_eq_true_eq, not_exists, not_and]
  exact forall_congr' fun rest => imp_not_comm

theorem occurrences_eq_zero_of_not_mem {c : Char} (hc : c ∈ part) (h : c ∉ a) :
    occurrences part a = 0 :=
  occurrences_eq_zero_iff.mpr fun hpart => h (hpart.subset hc)

theorem occurrences_intercalate {c d : Char} (hd : d ∉ c :: part) {texts : List (List Char)}
    (h : ∀ text ∈ texts, occurrences (c :: part) text = 0) :
    occurrences (c :: part) ([d].intercalate texts) = 0 := by
  induction texts with
  | nil => exact occurrences_nil (by simp)
  | cons text rest ih =>
    obtain ⟨htext, hrest⟩ := List.forall_mem_cons.mp h
    cases rest with
    | nil => simpa using htext
    | cons next rest =>
      rw [List.intercalate_cons_cons, List.append_assoc, List.singleton_append,
        occurrences_append_cons hd, htext, ih hrest]

/-- A text in which every `&` begins an entity holds no part that begins in front of no entity. -/
theorem occurrences_encode {table : EntityTable} {entity : String} (hamp : ('&', entity) ∈ table)
    (h : ∀ p ∈ table, ∀ rest,
      occurrences ('&' :: part) (p.2.toList ++ rest) = occurrences ('&' :: part) rest)
    (text : List Char) : occurrences ('&' :: part) (table.encode text) = 0 := by
  induction text with
  | nil => exact occurrences_nil (by simp)
  | cons c text ih =>
    rw [EntityTable.encode_cons]
    cases hc : table.lookup c with
    | some found =>
      rw [EntityTable.encodeChar_of_lookup hc, h _ (EntityTable.mem_of_lookup hc), ih]
    | none =>
      have hne : c ≠ '&' := EntityTable.ne_of_not_lookup hc hamp
      rw [EntityTable.encodeChar_of_not_lookup hc, List.singleton_append,
        occurrences_cons_of_ne hne, ih]

end SceneMarkup.Text
