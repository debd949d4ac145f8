import SceneMarkup.Proofs.Markup.Pieces

/-!
# Nesting of lines

Which elements are open after a text is found apart from the printer (`openAfter?`): a tag is what
stands between `<` and `>`. It opens an element, or closes the innermost one if it begins with a
slash, or does neither if it ends with a slash. A line is nested (`IsNested`) as many times as there
are elements open before it, without the one that it begins by closing. Where every line moves the
level of the printer as it opens and closes elements (`Tracks`), the levels of all lines are their
nesting (`TracksAll.isNested`).
-/

namespace SceneMarkup.Markup

/-- Where a scan of a text stands: the names of the open elements, innermost first, and what has been
read of the tag that it is in. -/
structure Scan where
  opened : List (List Char)
  tag : Option (List Char)
  deriving DecidableEq, Repr

/-- The open elements after a tag; none if it closes another one than the innermost. -/
def afterTag? (opened : List (List Char)) (tag : List Char) : Option (List (List Char)) :=
  match tag with
  | '/' :: name => if opened.head? = some name then some opened.tail else none
  | tag =>
    if tag.getLast? = some '/' then some opened else some (tag.takeWhile (· != ' ') :: opened)

namespace Scan

def step (s : Scan) (c : Char) : Option Scan :=
  match s.tag with
  | none => some (if c = '<' then ⟨s.opened, some []⟩ else s)
  | some tag =>
    if c = '>' then (afterTag? s.opened tag).map (⟨·, none⟩)
    else some ⟨s.opened, some (tag ++ [c])⟩

def run (s : Scan) (text : List Char) : Option Scan := text.foldlM step s

variable {opened : List (List Char)} {text tag : List Char}

theorem run_append (s : Scan) (a b : List Char) : s.run (a ++ b) = (s.run a).bind (·.run b) :=
  List.foldlM_append

theorem run_cons (s : Scan) (c : Char) (text : List Char) :
    s.run (c :: text) = (s.step c).bind (·.run text) := rfl

theorem run_content (h : '<' ∉ text) : run ⟨opened, none⟩ text = some ⟨opened, none⟩ := by
  induction text with
  | nil => rfl
  | cons c rest ih =>
    obtain ⟨hc, hrest⟩ := List.ne_and_not_mem_of_not_mem_cons h
    rw [run_cons, step, if_neg hc.symm]
    exact ih hrest

theorem run_inside (h : '>' ∉ text) :
    run ⟨opened, some tag⟩ text = some ⟨opened, some (tag ++ text)⟩ := by
  induction text generalizing tag with
  | nil => rw [List.append_nil]; rfl
  | cons c rest ih =>
    obtain ⟨hc, hrest⟩ := List.ne_and_not_mem_of_not_mem_cons h
    have hstep : step ⟨opened, some tag⟩ c = some ⟨opened, some (tag ++ [c])⟩ := if_neg hc.symm
    rw [run_cons, hstep, Option.bind_some, ih hrest, List.append_assoc, List.singleton_append]

theorem run_tag (h : '>' ∉ tag) (rest : List Char) :
    run ⟨opened, none⟩ ('<' :: (tag ++ '>' :: rest)) =
      (afterTag? opened tag).bind fun opened => run ⟨opened, none⟩ rest := by
  have hbracket : step ⟨opened, none⟩ '<' = some ⟨opened, some []⟩ := rfl
  rw [run_cons, hbracket, Option.bind_some, run_append, run_inside h, List.nil_append,
    Option.bind_some, run_cons]
  simp only [step, if_true, Option.bind_map]
  rfl

end Scan

/-- The elements that are open after a text, innermost first; none if it ends in a tag, or if an
element is closed that is not the innermost one. -/
def openAfter? (text : List Char) : Option (List (List Char)) :=
  match Scan.run ⟨[], none⟩ text with
  | some ⟨opened, none⟩ => some opened
  | _ => none

/-- As many elements as the level are open before a line, without the one that it begins by
closing. -/
def IsNested (before line : List Char) (level : Nat) : Prop :=
  ∃ opened, openAfter? before = some opened ∧
    opened.length = if startsClosing line then level + 1 else level

/-! ## Levels -/

def printed (text : String) : List (Nat × List Char) := leveled 0 (pieces text.toList)

theorem toList_indent (text : String) : (indent text).toList = layOut (printed text) := by
  rw [indent, String.toList_ofList, printed]

theorem map_leveled (level : Nat) (lines : List (List Char)) :
    (leveled level lines).map Prod.snd = lines := by
  induction lines generalizing level with
  | nil => rfl
  | cons line rest ih => rw [leveled, List.map_cons, ih]

theorem leveled_append (level : Nat) (before after : List (List Char)) :
    leveled level (before ++ after) =
      leveled level before ++ leveled (before.foldl levelAfter level) after := by
  induction before generalizing level with
  | nil => rfl
  | cons line rest ih => rw [List.cons_append, leveled, ih]; rfl

/-- A line that does not change the level does not change the lines after it either. -/
theorem leveled_around {start level : Nat} {before : List (List Char)} {line : List Char}
    (hlevel : before.foldl levelAfter start = level) (hat : levelAt level line = level)
    (hafter : levelAfter level line = level) (after : List (List Char)) :
    leveled start (before ++ [line] ++ after) =
      leveled start before ++ (level, line) :: leveled level after := by
  rw [List.append_assoc, List.singleton_append, leveled_append, hlevel, leveled, hat, hafter]

theorem eq_levelAt_of_leveled {level start : Nat} {lines : List (List Char)} {line : List Char}
    {before after : List (Nat × List Char)}
    (h : leveled start lines = before ++ (level, line) :: after) :
    lines = before.map Prod.snd ++ line :: after.map Prod.snd ∧
      level = levelAt ((before.map Prod.snd).foldl levelAfter start) line := by
  have hlines : lines = before.map Prod.snd ++ line :: after.map Prod.snd := by
    rw [← map_leveled start lines, h, List.map_append, List.map_cons]
  refine ⟨hlines, ?_⟩
  rw [hlines, leveled_append] at h
  have hlength : (leveled start (before.map Prod.snd)).length = before.length := by
    rw [← List.length_map Prod.snd, map_leveled, List.length_map]
  obtain ⟨-, hrest⟩ := List.append_inj h hlength
  exact (Prod.mk.inj (List.cons.inj hrest).1).1.symm

/-! ## Tracked lines -/

/-- A line moves the level as it opens and closes elements, and begins by closing one only if one is
open. -/
structure Tracks (opened : List (List Char)) (line : List Char) (after : List (List Char)) :
    Prop where
  scan : Scan.run ⟨opened, none⟩ line = some ⟨after, none⟩
  level : levelAfter opened.length line = after.length
  closes : startsClosing line = true → opened ≠ []

inductive TracksAll : List (List Char) → List (List Char) → List (List Char) → Prop where
  | nil (opened : List (List Char)) : TracksAll opened [] opened
  | cons {opened next after : List (List Char)} {line : List Char} {lines : List (List Char)}
      (hline : Tracks opened line next) (hlines : TracksAll next lines after) :
      TracksAll opened (line :: lines) after

namespace TracksAll

variable {opened next after : List (List Char)} {a b lines : List (List Char)} {line : List Char}

theorem single (h : Tracks opened line after) : TracksAll opened [line] after := .cons h (.nil _)

theorem append (ha : TracksAll opened a next) (hb : TracksAll next b after) :
    TracksAll opened (a ++ b) after := by
  induction ha with
  | nil => exact hb
  | cons hline _ ih => exact .cons hline (ih hb)

theorem split (h : TracksAll opened (a ++ line :: b) after) :
    ∃ before next, TracksAll opened a before ∧ Tracks before line next ∧
      TracksAll next b after := by
  induction a generalizing opened with
  | nil =>
    cases h with
    | cons hline hlines => exact ⟨opened, _, .nil _, hline, hlines⟩
  | cons first rest ih =>
    cases h with
    | cons hfirst hrest =>
      obtain ⟨before, next, hbefore, hline, hafter⟩ := ih hrest
      exact ⟨before, next, .cons hfirst hbefore, hline, hafter⟩

theorem scan (h : TracksAll opened lines after) :
    Scan.run ⟨opened, none⟩ lines.flatten = some ⟨after, none⟩ := by
  induction h with
  | nil => rfl
  | cons hline _ ih => rw [List.flatten_cons, Scan.run_append, hline.scan, Option.bind_some, ih]

theorem level (h : TracksAll opened lines after) :
    lines.foldl levelAfter opened.length = after.length := by
  induction h with
  | nil => rfl
  | cons hline _ ih => rw [List.foldl_cons, hline.level, ih]

theorem isNested (h : TracksAll [] lines after) {before rest : List (Nat × List Char)}
    {level : Nat} (hlines : leveled 0 lines = before ++ (level, line) :: rest) :
    IsNested (before.flatMap Prod.snd) line level ∧
      (startsClosing line = true → 0 < (before.map Prod.snd).foldl levelAfter 0) := by
  obtain ⟨rfl, rfl⟩ := eq_levelAt_of_leveled hlines
  obtain ⟨opened, next, hbefore, hline, -⟩ := h.split
  have hscan := hbefore.scan
  have hlevel : (before.map Prod.snd).foldl levelAfter 0 = opened.length := hbefore.level
  rw [hlevel, List.flatMap_def]
  have hpos (hclosing : startsClosing line = true) : 0 < opened.length :=
    List.length_pos_iff.mpr (hline.closes hclosing)
  refine ⟨⟨opened, by rw [openAfter?, hscan], ?_⟩, hpos⟩
  unfold levelAt
  split
  · rename_i hclosing
    have := hpos hclosing
    omega
  · rfl

end TracksAll

end SceneMarkup.Markup
