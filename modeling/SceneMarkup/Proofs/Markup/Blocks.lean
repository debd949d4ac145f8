import SceneMarkup.Proofs.Markup.Nesting
import SceneMarkup.Proofs.Markup.Tags

/-!
# Blocks

A block is a text of whole elements, all lines of which are tracked (`IsBlock`). Blocks are what is
printed on one line, between an opening and a closing tag or as a tag that closes itself, and blocks
between two tags on lines of their own.
-/

namespace SceneMarkup.Markup

open Reader (IsTagName)

variable {opened : List (List Char)} {tag name tail text rest : List Char}

/-! ## What the printer makes of a line -/

theorem startsClosing_iff {line : List Char} : startsClosing line = true ↔ ['<', '/'] <+: line := by
  unfold startsClosing
  split
  · simp
  · rename_i hother
    simp only [Bool.false_eq_true, false_iff]
    rintro ⟨rest, rfl⟩
    exact hother rest rfl

theorem holdsClosing_iff {line : List Char} : holdsClosing line = true ↔ ['<', '/'] <:+: line := by
  induction line with
  | nil => simp [holdsClosing]
  | cons c rest ih =>
    rw [holdsClosing, Bool.or_eq_true, startsClosing_iff, ih, List.infix_cons_iff]

theorem not_holdsClosing (h : '<' ∉ text) : ¬ ['<', '/'] <:+: text := fun hpart =>
  h (hpart.subset (.head _))

theorem length_le_byteLength (text : List Char) : text.length ≤ Text.byteLength text := by
  induction text with
  | nil => exact Nat.le_refl _
  | cons c rest ih =>
    have := c.utf8Size_pos
    rw [List.length_cons, Text.byteLength]
    omega

theorem takeWhile_bracket (h : '>' ∉ text) (rest : List Char) :
    (text ++ '>' :: rest).takeWhile (· != '>') = text := by
  have hbefore : ∀ c ∈ text, (c != '>') = true := by
    intro c hc
    have : c ≠ '>' := by rintro rfl; exact h hc
    simpa using this
  rw [List.takeWhile_append_of_pos hbefore, List.takeWhile_cons_of_neg (by simp), List.append_nil]

def BeginsOpening (text : List Char) : Prop := ∀ c ∈ text.head?, c ≠ '/' ∧ c ≠ '!'

/-- A line that begins with a tag, neither a closing one nor a declaration, opens an element if the
tag does not end with a slash and no closing tag follows. -/
theorem opensElement_iff (hbegins : BeginsOpening tag) (hsize : 2 ≤ tag.length) (htag : '>' ∉ tag) :
    opensElement ('<' :: (tag ++ '>' :: rest)) = true ↔
      tag.getLast? ≠ some '/' ∧ ¬ ['<', '/'] <:+: tag ++ '>' :: rest := by
  have hne : tag ≠ [] := by rintro rfl; cases hsize
  have hlast : ('<' :: tag).getLast? = tag.getLast? := List.getLast?_cons_of_ne_nil hne
  have htake : ('<' :: (tag ++ '>' :: rest)).takeWhile (· != '>') = '<' :: tag :=
    takeWhile_bracket (List.not_mem_cons_of_ne_of_not_mem (by decide) htag) rest
  have hbytes : 3 ≤ Text.byteLength ('<' :: tag) := by
    have hlength := length_le_byteLength ('<' :: tag)
    rw [List.length_cons] at hlength
    omega
  cases tag with
  | nil => exact absurd rfl hne
  | cons c inner =>
    obtain ⟨hslash, hbang⟩ := hbegins c rfl
    have hclosing : ['<', '/'] <:+: '<' :: (c :: inner ++ '>' :: rest) ↔
        ['<', '/'] <:+: c :: inner ++ '>' :: rest := by
      rw [List.infix_cons_iff, List.cons_append, List.cons_prefix_cons, List.cons_prefix_cons]
      simp [hslash.symm]
    unfold opensElement
    split
    · rename_i heq
      cases heq
      exact absurd rfl hbang
    · rename_i heq
      cases heq
      exact absurd rfl hslash
    · simp only [htake, hlast, hbytes, Bool.and_eq_true, decide_eq_true_eq, bne_iff_ne,
        Bool.not_eq_true', ← Bool.not_eq_true, holdsClosing_iff, hclosing]
      simp
    · rename_i hother
      exact absurd rfl (hother _)

theorem startsClosing_tag (hbegins : BeginsOpening tag) (rest : List Char) :
    startsClosing ('<' :: (tag ++ '>' :: rest)) = false := by
  rw [Bool.eq_false_iff, Ne, startsClosing_iff]
  cases tag with
  | nil => simp
  | cons c inner => simpa using (hbegins c rfl).1.symm

theorem levelAfter_tag (hbegins : BeginsOpening tag) (level : Nat) :
    levelAfter level ('<' :: (tag ++ '>' :: rest)) =
      if opensElement ('<' :: (tag ++ '>' :: rest)) then level + 1 else level := by
  rw [levelAfter, levelAt, startsClosing_tag hbegins rest]
  simp

/-! ## Texts of tags -/

def Unbracketed (text : List Char) : Prop := '<' ∉ text ∧ '>' ∉ text

instance (text : List Char) : Decidable (Unbracketed text) := inferInstanceAs (Decidable (_ ∧ _))

theorem Unbracketed.append {a b : List Char} (ha : Unbracketed a) (hb : Unbracketed b) :
    Unbracketed (a ++ b) :=
  ⟨List.not_mem_append ha.1 hb.1, List.not_mem_append ha.2 hb.2⟩

theorem unbracketed_of_isAlphanum (h : ∀ c ∈ name, c.isAlphanum = true) : Unbracketed name :=
  ⟨fun hc => absurd (h _ hc) (by decide), fun hc => absurd (h _ hc) (by decide)⟩

theorem beginsOpening_of_isAlphanum (h : ∀ c ∈ name, c.isAlphanum = true) :
    BeginsOpening name := by
  intro c hc
  have halphanum := h c (List.mem_of_head? hc)
  exact ⟨by rintro rfl; revert halphanum; decide, by rintro rfl; revert halphanum; decide⟩

theorem beginsOpening_end : BeginsOpening [' ', '/'] := by
  rintro _ ⟨⟩
  decide

theorem BeginsOpening.append {a b : List Char} (ha : BeginsOpening a) (hb : BeginsOpening b) :
    BeginsOpening (a ++ b) := forall_mem_head?_append ha hb

/-- What follows the name in a tag: nothing, or texts after a blank. -/
structure IsTail (tail : List Char) : Prop where
  unbracketed : Unbracketed tail
  begins : ∀ c ∈ tail.head?, c = ' '
  ends : ∀ c ∈ tail.getLast?, c ≠ '/'

namespace IsTail

theorem nil : IsTail [] := ⟨by decide, nofun, nofun⟩

theorem append {a b : List Char} (ha : IsTail a) (hb : IsTail b) : IsTail (a ++ b) :=
  ⟨ha.unbracketed.append hb.unbracketed, forall_mem_head?_append ha.begins hb.begins,
    forall_mem_getLast?_append ha.ends hb.ends⟩

theorem beginsOpening (h : IsTail tail) : BeginsOpening tail := by
  intro c hc
  obtain rfl := h.begins c hc
  decide

theorem takeWhile (h : IsTail tail) : tail.takeWhile (· != ' ') = [] := by
  cases tail with
  | nil => rfl
  | cons c rest => obtain rfl := h.begins c rfl; rfl

end IsTail

/-! ## Lines -/

theorem afterTag?_of_beginsOpening (h : BeginsOpening tag) (opened : List (List Char)) :
    afterTag? opened tag =
      if tag.getLast? = some '/' then some opened
      else some (tag.takeWhile (· != ' ') :: opened) := by
  unfold afterTag?
  split
  · exact absurd rfl (h '/' rfl).1
  · rfl

structure IsOpening (tag : Tag) (inner : List Char) : Prop where
  begins : BeginsOpening inner
  size : 2 ≤ inner.length
  unbracketed : Unbracketed inner
  ends : inner.getLast? ≠ some '/'
  name : inner.takeWhile (· != ' ') = tag.name.toList

theorem IsTail.isOpening (h : IsTail tail) (tag : Tag) :
    IsOpening tag (tag.name.toList ++ tail) := by
  obtain ⟨-, hname⟩ := Reader.isTagName_name tag
  refine ⟨(beginsOpening_of_isAlphanum hname).append h.beginsOpening, ?_,
    (unbracketed_of_isAlphanum hname).append h.unbracketed, fun hlast => ?_, ?_⟩
  · rw [List.length_append]
    have : 2 ≤ tag.name.toList.length := by cases tag <;> decide
    omega
  · have hends : ∀ c ∈ tag.name.toList.getLast?, c ≠ '/' := by
      intro c hc
      have hslash : '/' ∉ tag.name.toList := by cases tag <;> decide
      rintro rfl
      exact hslash (List.mem_of_getLast? hc)
    exact forall_mem_getLast?_append hends h.ends '/' hlast rfl
  · have hblank : ∀ c ∈ tag.name.toList, (c != ' ') = true := by
      intro c hc
      have : c ≠ ' ' := by rintro rfl; exact absurd (hname _ hc) (by decide)
      simpa using this
    rw [List.takeWhile_append_of_pos hblank, h.takeWhile, List.append_nil]

variable {inner : List Char} {element : Tag}

theorem tracks_opening (h : IsOpening element inner) (opened : List (List Char)) :
    Tracks opened ('<' :: (inner ++ ['>'])) (element.name.toList :: opened) where
  scan := by
    rw [Scan.run_tag h.unbracketed.2, afterTag?_of_beginsOpening h.begins, if_neg h.ends, h.name]
    rfl
  level := by
    have hopens : opensElement ('<' :: (inner ++ ['>'])) = true := by
      refine (opensElement_iff h.begins h.size h.unbracketed.2).mpr ⟨h.ends, not_holdsClosing ?_⟩
      exact List.not_mem_append h.unbracketed.1 (by decide)
    rw [levelAfter_tag h.begins, if_pos hopens, List.length_cons]
  closes := by rw [startsClosing_tag h.begins]; nofun

theorem not_mem_closingName (tag : Tag) : '>' ∉ '/' :: tag.name.toList := by cases tag <;> decide

theorem tracks_closing (opened : List (List Char)) (tag : Tag) :
    Tracks (tag.name.toList :: opened) (closingTag tag).toList opened where
  scan := by
    rw [toList_closingTag, Scan.run_tag (not_mem_closingName tag), afterTag?]
    simp only [List.head?_cons, if_true]
    rfl
  level := by
    rw [toList_closingTag]
    simp [levelAfter, levelAt, startsClosing, opensElement]
  closes := by simp

theorem tracks_filled (h : IsOpening element inner) (htext : '<' ∉ text)
    (opened : List (List Char)) :
    Tracks opened ('<' :: (inner ++ '>' :: (text ++ (closingTag element).toList))) opened where
  scan := by
    rw [Scan.run_tag h.unbracketed.2, afterTag?_of_beginsOpening h.begins, if_neg h.ends, h.name,
      Option.bind_some, Scan.run_append, Scan.run_content htext, Option.bind_some]
    exact (tracks_closing opened element).scan
  level := by
    have hcloses :
        ¬ opensElement ('<' :: (inner ++ '>' :: (text ++ (closingTag element).toList))) := by
      rw [opensElement_iff h.begins h.size h.unbracketed.2, toList_closingTag]
      refine fun hopens => hopens.2 ⟨inner ++ '>' :: text, element.name.toList ++ ['>'], ?_⟩
      simp
    rw [levelAfter_tag h.begins, if_neg hcloses]
  closes := by rw [startsClosing_tag h.begins]; nofun

theorem tracks_selfClosing (hbegins : BeginsOpening tag) (hsize : 2 ≤ tag.length)
    (htag : '>' ∉ tag) (hlast : tag.getLast? = some '/') (opened : List (List Char)) :
    Tracks opened ('<' :: (tag ++ ['>'])) opened where
  scan := by
    rw [Scan.run_tag htag, afterTag?_of_beginsOpening hbegins, if_pos hlast]
    rfl
  level := by
    have hcloses : ¬ opensElement ('<' :: (tag ++ ['>'])) := by
      rw [opensElement_iff hbegins hsize htag]
      exact fun hopens => hopens.1 hlast
    rw [levelAfter_tag hbegins, if_neg hcloses]
  closes := by rw [startsClosing_tag hbegins]; nofun

/-! ## Blocks -/

/-- A text of whole elements, whose lines are tracked. -/
structure IsBlock (text : List Char) : Prop where
  begins : text.head? = some '<'
  ends : text.getLast? = some '>'
  tracked : ∀ opened, TracksAll opened (pieces text) opened

theorem uncut_tag_iff (h : '>' ∉ tag) :
    Uncut ('<' :: (tag ++ '>' :: rest)) ↔ Uncut ('>' :: rest) := by
  have hlt : ¬ ('<' = '>' ∧ (tag ++ '>' :: rest).head? = some '<') := nofun
  have hjoin : ¬ (tag.getLast? = some '>' ∧ ('>' :: rest).head? = some '<') := nofun
  rw [uncut_cons_iff, uncut_append_iff, iff_true_intro hlt, iff_true_intro hjoin,
    iff_true_intro (uncut_of_not_mem h), true_and, true_and, and_true]

theorem uncut_tag (h : '>' ∉ tag) : Uncut ('<' :: (tag ++ ['>'])) :=
  (uncut_tag_iff h).mpr (by decide)

theorem uncut_closingTag (tag : Tag) : Uncut (closingTag tag).toList := by
  rw [toList_closingTag]
  exact uncut_tag (not_mem_closingName tag)

namespace IsBlock

variable {inner : List Char} {element : Tag}

theorem ofLine {line : List Char} (hbegins : line.head? = some '<')
    (hends : line.getLast? = some '>') (huncut : Uncut line)
    (h : ∀ opened, Tracks opened line opened) : IsBlock line where
  begins := hbegins
  ends := hends
  tracked := fun opened => by
    rw [pieces_eq_singleton_iff.mpr huncut]
    exact .single (h opened)

theorem filled (h : IsOpening element inner) (hne : text ≠ []) (htext : Unbracketed text) :
    IsBlock ('<' :: (inner ++ '>' :: (text ++ (closingTag element).toList))) := by
  refine .ofLine rfl ?_ ?_ (tracks_filled h htext.1)
  · rw [toList_closingTag, List.getLast?_eq_some_iff]
    exact ⟨'<' :: (inner ++ '>' :: (text ++ '<' :: '/' :: element.name.toList)), by simp⟩
  · rw [uncut_tag_iff h.unbracketed.2, uncut_cons_iff, uncut_append_iff]
    have hlast : text.getLast? ≠ some '>' := fun hlast => htext.2 (List.mem_of_getLast? hlast)
    have hfirst : text.head? ≠ some '<' := fun hfirst => htext.1 (List.mem_of_head? hfirst)
    refine ⟨fun hcut => hfirst ?_, uncut_of_not_mem htext.2, uncut_closingTag element,
      fun hcut => hlast hcut.1⟩
    rw [← hcut.2, List.head?_append, Option.or_of_isSome (by simpa using hne)]

theorem selfClosing (hname : ∀ c ∈ name, c.isAlphanum = true) (htail : IsTail tail) :
    IsBlock ('<' :: (name ++ tail ++ [' ', '/'] ++ ['>'])) := by
  have hunbracketed := (unbracketed_of_isAlphanum hname).append htail.unbracketed
  have hinner : '>' ∉ name ++ tail ++ [' ', '/'] := (hunbracketed.append (by decide)).2
  have hbegins : BeginsOpening (name ++ tail ++ [' ', '/']) :=
    ((beginsOpening_of_isAlphanum hname).append htail.beginsOpening).append beginsOpening_end
  have hsize : 2 ≤ (name ++ tail ++ [' ', '/']).length := by
    rw [List.length_append]
    exact Nat.le_add_left ..
  refine .ofLine rfl (getLast?_tag _) (uncut_tag hinner) ?_
  exact tracks_selfClosing hbegins hsize hinner (by simp)

theorem pieces_flatten {texts : List (List Char)} (h : ∀ text ∈ texts, IsBlock text)
    (hrest : rest.head? = some '<') :
    pieces (texts.flatten ++ rest) = texts.flatMap pieces ++ pieces rest ∧
      (texts.flatten ++ rest).head? = some '<' := by
  induction texts with
  | nil => exact ⟨rfl, hrest⟩
  | cons text texts ih =>
    obtain ⟨htext, htexts⟩ := List.forall_mem_cons.mp h
    obtain ⟨hpieces, hhead⟩ := ih htexts
    rw [List.flatten_cons, List.append_assoc, pieces_append htext.ends hhead, hpieces,
      List.flatMap_cons, List.append_assoc, List.head?_append, htext.begins]
    exact ⟨rfl, rfl⟩

theorem tracksAll_flatMap {texts : List (List Char)} (h : ∀ text ∈ texts, IsBlock text)
    (opened : List (List Char)) : TracksAll opened (texts.flatMap pieces) opened := by
  induction texts with
  | nil => exact .nil opened
  | cons text texts ih =>
    obtain ⟨htext, htexts⟩ := List.forall_mem_cons.mp h
    exact (htext.tracked opened).append (ih htexts)

theorem wrapped (h : IsOpening element inner) {texts : List (List Char)}
    (htexts : ∀ text ∈ texts, IsBlock text) :
    IsBlock ('<' :: (inner ++ ['>']) ++ (texts.flatten ++ (closingTag element).toList)) where
  begins := rfl
  ends := by
    rw [toList_closingTag, List.getLast?_eq_some_iff]
    exact ⟨'<' :: (inner ++ '>' :: (texts.flatten ++ '<' :: '/' :: element.name.toList)), by simp⟩
  tracked := fun opened => by
    have hopening := pieces_eq_singleton_iff.mpr (uncut_tag h.unbracketed.2)
    have hclosing := pieces_eq_singleton_iff.mpr (uncut_closingTag element)
    have hbegins : (closingTag element).toList.head? = some '<' := by
      rw [toList_closingTag]
      rfl
    obtain ⟨hpieces, hhead⟩ := pieces_flatten htexts hbegins
    rw [pieces_append (getLast?_tag inner) hhead, hpieces, hopening, hclosing]
    exact .append (.single (tracks_opening h opened))
      (.append (tracksAll_flatMap htexts _) (.single (tracks_closing opened element)))

end IsBlock

end SceneMarkup.Markup
