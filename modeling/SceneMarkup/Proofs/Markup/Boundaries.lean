import Mathlib.Data.List.Chain
import SceneMarkup.Proofs.Markup.Nesting
import SceneMarkup.Proofs.Text.Occurrences

/-!
# Tag boundaries

A text has a boundary wherever a `<` follows a `>`. Its pieces meet at the boundaries
(`isChain_pieces`), one more of them than there are boundaries (`length_pieces`). Indenting a text
puts a line break and blanks between the pieces and leaves all else (`indent_joins_pieces`). No
boundary is left in an indented text (`uncut_indent`), and a text without boundaries is indented
already (`indent_eq_self_iff`).
-/

namespace SceneMarkup.Markup

open Text (occurrences)

/-- Two neighbours with a boundary between them: one ends with a `>`, the other begins with a `<`. -/
def Meet (a b : List Char) : Prop := a.getLast? = some '>' ∧ b.head? = some '<'

theorem Meet.cons {a b : List Char} (h : Meet a b) (c : Char) : Meet (c :: a) b :=
  ⟨by rw [List.getLast?_cons, h.1, Option.getD_some], h.2⟩

theorem isChain_pieces (text : List Char) : (pieces text).IsChain Meet := by
  induction text with
  | nil => exact .singleton _
  | cons c rest ih =>
    rw [pieces_cons]
    cases hpieces : pieces rest with
    | nil => exact .singleton _
    | cons line more =>
      rw [hpieces] at ih
      simp only [consPiece]
      split
      · rename_i hcut
        obtain ⟨rfl, hline⟩ := hcut
        exact .cons_cons ⟨rfl, hline⟩ ih
      · exact ih.imp_head fun hmeet => hmeet.cons c

theorem length_pieces (text : List Char) :
    (pieces text).length = occurrences ['>', '<'] text + 1 := by
  induction text with
  | nil => rw [Text.occurrences_nil (by decide)]; rfl
  | cons c rest ih =>
    obtain ⟨line, more, hpieces, hline⟩ := exists_pieces_eq_cons rest
    have hbegins : ['>', '<'] <+: c :: rest ↔ c = '>' ∧ line.head? = some '<' := by
      rw [hline, List.cons_prefix_cons, List.singleton_prefix_iff_head?_eq_some, eq_comm]
    rw [Text.occurrences_cons, pieces_cons, hpieces, consPiece]
    rw [hpieces] at ih
    by_cases hcut : c = '>' ∧ line.head? = some '<'
    · rw [if_pos hcut, if_pos (hbegins.mpr hcut), List.length_cons, ih]
      omega
    · rw [if_neg hcut, if_neg (hbegins.not.mpr hcut), List.length_cons, Nat.zero_add, ← ih,
        List.length_cons]

/-! ## Laid out lines -/

/-- What a line of some level adds to the lines before it. -/
def nextLine (line : Nat × List Char) : List Char := '\n' :: (indentation line.1 ++ line.2)

theorem layOut_cons (first : Nat × List Char) (rest : List (Nat × List Char)) :
    layOut (first :: rest) = indentation first.1 ++ first.2 ++ rest.flatMap nextLine := by
  induction rest generalizing first with
  | nil => simp [layOut]
  | cons next rest ih =>
    have hnext := ih next
    rw [layOut, List.map_cons] at hnext
    rw [layOut, List.map_cons, List.map_cons, List.intercalate_cons_cons, hnext,
      List.flatMap_cons, nextLine]
    simp only [List.append_assoc, List.cons_append, List.nil_append]

theorem levelAt_zero (line : List Char) : levelAt 0 line = 0 := by
  unfold levelAt
  split <;> rfl

/-- **Indenting only adds blanks at boundaries**: the text is put together of pieces that meet at its
boundaries, as many as there are and one more, and the indented text is the same pieces in the same
order, each one but the first on a line of its own behind four blanks for each of its levels. -/
theorem indent_joins_pieces (text : String) :
    ∃ (first : List Char) (rest : List (Nat × List Char)),
      first ++ rest.flatMap Prod.snd = text.toList ∧
      rest.length = occurrences ['>', '<'] text.toList ∧
      (first :: rest.map Prod.snd).IsChain Meet ∧
      (indent text).toList =
        first ++ rest.flatMap fun line => '\n' :: (List.replicate (4 * line.1) ' ' ++ line.2) := by
  obtain ⟨first, more, hpieces, -⟩ := exists_pieces_eq_cons text.toList
  have hprinted : printed text = (0, first) :: leveled (levelAfter 0 first) more := by
    rw [printed, hpieces, leveled, levelAt_zero]
  refine ⟨first, leveled (levelAfter 0 first) more, ?_, ?_, ?_, ?_⟩
  · rw [List.flatMap_def, map_leveled, ← List.flatten_cons, ← hpieces, flatten_pieces]
  · have hlength := length_pieces text.toList
    rw [hpieces, List.length_cons] at hlength
    rw [← List.length_map Prod.snd, map_leveled]
    omega
  · rw [map_leveled, ← hpieces]
    exact isChain_pieces text.toList
  · rw [toList_indent, hprinted, layOut_cons]
    rfl

/-- Two boundaries around one piece, in a text that is not balanced. -/
example : indent "><></i>" = ">\n<>\n</i>" := by decide

/-! ## Indented texts -/

theorem toList_indent_of_pieces {text : String} {first : List Char} {more : List (List Char)}
    (h : pieces text.toList = first :: more) :
    (indent text).toList = first ++ (leveled (levelAfter 0 first) more).flatMap nextLine := by
  have hprinted : printed text = (0, first) :: leveled (levelAfter 0 first) more := by
    rw [printed, h, leveled, levelAt_zero]
  rw [toList_indent, hprinted, layOut_cons]
  rfl

theorem uncut_nextLine {line : Nat × List Char} (h : Uncut line.2) : Uncut (nextLine line) := by
  have hblank : '>' ∉ '\n' :: indentation line.1 := by simp [indentation]
  rw [nextLine, ← List.cons_append, uncut_append_iff]
  refine ⟨uncut_of_not_mem hblank, h, fun hcut => hblank ?_⟩
  exact List.mem_of_getLast? hcut.1

/-- A line break follows whatever stands before a line, so the lines bring no boundary with them. -/
theorem uncut_append_nextLines {first : List Char} (hfirst : Uncut first)
    {rest : List (Nat × List Char)} (h : ∀ line ∈ rest, Uncut line.2) :
    Uncut (first ++ rest.flatMap nextLine) := by
  induction rest generalizing first with
  | nil => rwa [List.flatMap_nil, List.append_nil]
  | cons line rest ih =>
    obtain ⟨hline, hrest⟩ := List.forall_mem_cons.mp h
    rw [List.flatMap_cons, ← List.append_assoc]
    refine ih (uncut_append_iff.mpr ⟨hfirst, uncut_nextLine hline, ?_⟩) hrest
    rintro ⟨-, hhead⟩
    cases hhead

theorem uncut_indent (text : String) : Uncut (indent text).toList := by
  obtain ⟨first, more, hpieces, -⟩ := exists_pieces_eq_cons text.toList
  have huncut : ∀ line ∈ first :: more, Uncut line := by
    rw [← hpieces]
    exact fun line => uncut_of_mem_pieces
  obtain ⟨hfirst, hmore⟩ := List.forall_mem_cons.mp huncut
  rw [toList_indent_of_pieces hpieces]
  refine uncut_append_nextLines hfirst fun line hline => hmore line.2 ?_
  rw [← map_leveled (levelAfter 0 first) more]
  exact List.mem_map_of_mem hline

theorem indent_eq_self_iff {text : String} : indent text = text ↔ Uncut text.toList := by
  refine ⟨fun h => h ▸ uncut_indent text, fun h => ?_⟩
  have hpieces : pieces text.toList = [text.toList] := pieces_eq_singleton_iff.mpr h
  rw [← String.toList_inj, toList_indent_of_pieces hpieces, leveled, List.flatMap_nil,
    List.append_nil]

/-- **An indented text is indented already**, whatever the text is. -/
theorem indent_indent (text : String) : indent (indent text) = indent text :=
  indent_eq_self_iff.mpr (uncut_indent text)

end SceneMarkup.Markup
