import SceneMarkup.Proofs.Markup.Boundaries
import SceneMarkup.Proofs.Markup.Tags

/-!
# Reading indented markup

Indenting puts a break, which is a line end and blanks, at every boundary of a text (`Broken`). If a
reader takes the text, it takes the indented text as well (`read_indent`), and finds the same
elements and components with the same names of attributes, and the same texts: but wherever two tags
follow each other, there is a text between them now that is a break (`Spaced`).

Both texts are read in step (`Alike.step`); only at a boundary the reader of the indented text is
ahead by a break (`Alike.boundary`). A boundary in a value puts a break into the value.
-/

namespace SceneMarkup

namespace Markup

/-! ## Breaks in a text -/

def breakText (blanks : Nat) : List Char := '\n' :: List.replicate blanks ' '

theorem mem_breakText {blanks : Nat} {c : Char} (h : c ∈ breakText blanks) : c = '\n' ∨ c = ' ' :=
  (List.mem_cons.mp h).imp_right List.eq_of_mem_replicate

/-- A text, and the same text with a break at every boundary; it follows some character, or none. -/
inductive Broken : Option Char → List Char → List Char → Prop where
  | nil (previous : Option Char) : Broken previous [] []
  | char {previous : Option Char} {c : Char} {rest broken : List Char}
      (hc : ¬ (previous = some '>' ∧ c = '<')) (hrest : Broken (some c) rest broken) :
      Broken previous (c :: rest) (c :: broken)
  | boundary {rest broken : List Char} (blanks : Nat) (hrest : Broken (some '<') rest broken) :
      Broken (some '>') ('<' :: rest) (breakText blanks ++ '<' :: broken)

theorem Broken.of_lines {text first : List Char} {lines : List (Nat × List Char)}
    (h : pieces text = first :: lines.map Prod.snd) {previous : Option Char}
    (hprevious : ¬ (previous = some '>' ∧ text.head? = some '<')) :
    Broken previous text (first ++ lines.flatMap nextLine) := by
  induction text generalizing first lines previous with
  | nil =>
    obtain ⟨rfl, hlines⟩ := List.cons.inj h
    obtain rfl := List.map_eq_nil_iff.mp hlines.symm
    exact .nil previous
  | cons c rest ih =>
    have hc : ¬ (previous = some '>' ∧ c = '<') := by simpa using hprevious
    obtain ⟨line, more, hpieces, hline⟩ := exists_pieces_eq_cons rest
    rw [pieces_cons, hpieces, consPiece] at h
    split at h
    · rename_i hcut
      obtain ⟨rfl, hbegins⟩ := hcut
      obtain ⟨rfl, hlines⟩ := List.cons.inj h
      obtain ⟨⟨level, next⟩, after, rfl, rfl, rfl⟩ := List.map_eq_cons_iff.mp hlines.symm
      rw [hline] at hbegins
      obtain ⟨rest, rfl⟩ := List.head?_eq_some_iff.mp hbegins
      -- the rest of the text begins the next line, wherever it stands
      have hrest : Broken none ('<' :: rest) (next ++ after.flatMap nextLine) :=
        ih hpieces (by simp)
      have htext : ['>'] ++ (((level, next) :: after).flatMap nextLine) =
          '>' :: (breakText (4 * level) ++ (next ++ after.flatMap nextLine)) := by
        simp [nextLine, indentation, breakText]
      rw [htext]
      generalize next ++ after.flatMap nextLine = broken at hrest
      cases hrest with
      | char _ hrest => exact .char hc (.boundary (4 * level) hrest)
    · rename_i hcut
      obtain ⟨rfl, rfl⟩ := List.cons.inj h
      refine .char hc (ih hpieces ?_)
      rwa [Option.some.injEq, ← hline]

theorem broken_indent (text : String) : Broken none text.toList (indent text).toList := by
  obtain ⟨first, more, hpieces, -⟩ := exists_pieces_eq_cons text.toList
  rw [toList_indent_of_pieces hpieces]
  refine .of_lines ?_ (by simp)
  rw [hpieces, map_leveled]

end Markup

namespace Reader

open Markup (breakText mem_breakText Broken broken_indent)

/-! ## Breaks between items -/

/-- Whether a tag ends where the next item begins: the one of the item before it or, if there is
none, the one that the content begins after. -/
def tagEnds (first : Bool) (items : List Item) : Bool :=
  match items.getLast? with
  | none => first
  | some (.text _) => false
  | some _ => true

/-- What stands between a tag and what was before it: a break if that was a tag as well. -/
inductive Gap : Bool → List Item → Prop where
  | none : Gap false []
  | break (blanks : Nat) : Gap true [.text (breakText blanks)]

theorem Gap.of_ends {ends : Bool} (h : ends = true) (blanks : Nat) :
    Gap ends [.text (breakText blanks)] := by
  rw [h]
  exact .break blanks

def attributeNames (attributes : List RawAttribute) : List (List Char) := attributes.map (·.name)

/-- The same items with breaks between all tags that follow each other; the content begins after a
tag or not. -/
inductive Spaced : Bool → List Item → List Item → Prop where
  | nil (first : Bool) : Spaced first [] []
  | text {first : Bool} {items spaced : List Item} (h : Spaced first items spaced)
      {characters : List Char} (hne : characters ≠ []) :
      Spaced first (items ++ [.text characters]) (spaced ++ [.text characters])
  | element {first : Bool} {items spaced gap content inner last : List Item} (tag : Tag)
      {attributes attributes' : List RawAttribute} (h : Spaced first items spaced)
      (hgap : Gap (tagEnds first items) gap)
      (hnames : attributeNames attributes = attributeNames attributes')
      (hcontent : Spaced true content inner) (hlast : Gap (tagEnds true content) last) :
      Spaced first (items ++ [.element tag attributes content])
        (spaced ++ gap ++ [.element tag attributes' (inner ++ last)])
  | component {first : Bool} {items spaced gap : List Item} (name : List Char)
      {attributes attributes' : List RawAttribute} (h : Spaced first items spaced)
      (hgap : Gap (tagEnds first items) gap)
      (hnames : attributeNames attributes = attributeNames attributes') :
      Spaced first (items ++ [.component name attributes])
        (spaced ++ gap ++ [.component name attributes'])

variable {flavor : Flavor} {first : Bool} {items spaced : List Item}

theorem tagEnds_nil (first : Bool) : tagEnds first [] = first := rfl

theorem tagEnds_text (first : Bool) (items : List Item) (characters : List Char) :
    tagEnds first (items ++ [.text characters]) = false := by
  simp [tagEnds]

theorem tagEnds_element (first : Bool) (items : List Item) (tag : Tag)
    (attributes : List RawAttribute) (content : List Item) :
    tagEnds first (items ++ [.element tag attributes content]) = true := by
  simp [tagEnds]

theorem tagEnds_component (first : Bool) (items : List Item) (name : List Char)
    (attributes : List RawAttribute) :
    tagEnds first (items ++ [.component name attributes]) = true := by
  simp [tagEnds]

theorem tagEnds_addChar (first : Bool) (items : List Item) (c : Char) :
    tagEnds first (addChar items c) = false := by
  unfold addChar
  split <;> exact tagEnds_text ..

theorem Spaced.addChar (h : Spaced first items spaced) (c : Char) :
    Spaced first (addChar items c) (addChar spaced c) := by
  cases h with
  | nil => exact .text (.nil first) (List.cons_ne_nil c [])
  | text h hne =>
    rw [addChar_text, addChar_text]
    exact .text h (by simp)
  | element tag h hgap hnames hcontent hlast =>
    simpa [Reader.addChar] using Spaced.text (.element tag h hgap hnames hcontent hlast) (List.cons_ne_nil c [])
  | component name h hgap hnames =>
    simpa [Reader.addChar] using Spaced.text (.component name h hgap hnames) (List.cons_ne_nil c [])

theorem Spaced.addText_breakText (h : Spaced first items spaced) (hends : tagEnds first items = true)
    (blanks : Nat) : addText spaced (breakText blanks) = spaced ++ [.text (breakText blanks)] := by
  refine addText_of_not_text (fun characters => ?_) (by simp [breakText])
  cases h with
  | nil => simp
  | text h hne => simp [tagEnds_text] at hends
  | element tag h hgap hnames hcontent hlast => simp
  | component name h hgap hnames => simp

/-! ## Reading in step -/

/-- Two tags with the same names, as far as they are read. -/
structure Head.Alike (head head' : Head) : Prop where
  name : head.name = head'.name
  attributes : attributeNames head.attributes = attributeNames head'.attributes

theorem Head.Alike.start (name : List Char) : Head.Alike ⟨name, []⟩ ⟨name, []⟩ := ⟨rfl, rfl⟩

theorem Head.Alike.add {head head' : Head} (h : head.Alike head') (key : List Char)
    (value value' : RawValue) : (head.add key value).Alike (head'.add key value') := by
  refine ⟨h.name, ?_⟩
  simpa [Head.add, attributeNames] using h.attributes

inductive Place.Alike : Place → Place → Prop where
  | bracket : Place.Alike .bracket .bracket
  | closing (name : List Char) : Place.Alike (.closing name) (.closing name)
  | name (name : List Char) : Place.Alike (.name name) (.name name)
  | inside {head head' : Head} (h : head.Alike head') : Place.Alike (.inside head) (.inside head')
  | key {head head' : Head} (h : head.Alike head') (key : List Char) :
      Place.Alike (.key head key) (.key head' key)
  | assigned {head head' : Head} (h : head.Alike head') (key : List Char) :
      Place.Alike (.assigned head key) (.assigned head' key)
  | quoted {head head' : Head} (h : head.Alike head') (key text text' : List Char) :
      Place.Alike (.quoted head key text) (.quoted head' key text')
  | braced {head head' : Head} (h : head.Alike head') (key : List Char) (nesting : Nesting)
      (text text' : List Char) :
      Place.Alike (.braced head key nesting text) (.braced head' key nesting text')
  | slash {head head' : Head} (h : head.Alike head') : Place.Alike (.slash head) (.slash head')

/-- The same elements are open, and what was read before each of them is spaced. -/
inductive OpenedAlike : List OpenElement → List OpenElement → Prop where
  | nil : OpenedAlike [] []
  | cons {opened opened' : List OpenElement} {before spaced gap : List Item} (tag : Tag)
      {attributes attributes' : List RawAttribute} (hrest : OpenedAlike opened opened')
      (hbefore : Spaced (!opened.isEmpty) before spaced)
      (hgap : Gap (tagEnds (!opened.isEmpty) before) gap)
      (hnames : attributeNames attributes = attributeNames attributes') :
      OpenedAlike (⟨tag, attributes, before⟩ :: opened)
        (⟨tag, attributes', spaced ++ gap⟩ :: opened')

/-- A reader of a text, after some character of it, and a reader of the text with breaks. In a tag,
the break in front of it is read already. -/
inductive State.Alike : Option Char → State → State → Prop where
  | content {previous : Option Char} {opened opened' : List OpenElement} {items spaced : List Item}
      (hopened : OpenedAlike opened opened') (hitems : Spaced (!opened.isEmpty) items spaced)
      (hends : tagEnds (!opened.isEmpty) items = true ↔ previous = some '>') :
      State.Alike previous ⟨opened, items, .content⟩ ⟨opened', spaced, .content⟩
  | tag {previous : Option Char} {opened opened' : List OpenElement}
      {items spaced gap : List Item} {place place' : Place} (hopened : OpenedAlike opened opened')
      (hitems : Spaced (!opened.isEmpty) items spaced)
      (hgap : Gap (tagEnds (!opened.isEmpty) items) gap) (hplace : place.Alike place') :
      State.Alike previous ⟨opened, items, place⟩ ⟨opened', spaced ++ gap, place'⟩

section

variable {opened opened' : List OpenElement} {gap : List Item} {place place' : Place}
  {head head' : Head}
  (hopened : OpenedAlike opened opened') (hitems : Spaced (!opened.isEmpty) items spaced)
  (hgap : Gap (tagEnds (!opened.isEmpty) items) gap)

include hopened hitems hgap

theorem State.Alike.enter (h : head.Alike head') :
    Option.Rel (State.Alike (some '>')) (State.enter ⟨opened, items, place⟩ head)
      (State.enter ⟨opened', spaced ++ gap, place'⟩ head') := by
  rw [State.enter, State.enter, h.name]
  cases tagOfName? head'.name with
  | none => exact .none
  | some tag =>
    exact .some (.content (.cons tag hopened hitems hgap h.attributes) (.nil true)
      (by simp [tagEnds_nil]))

theorem State.Alike.leave (name : List Char) :
    Option.Rel (State.Alike (some '>')) (State.leave ⟨opened, items, place⟩ name)
      (State.leave ⟨opened', spaced ++ gap, place'⟩ name) := by
  cases hopened with
  | nil => exact .none
  | cons tag hrest hbefore hbeforeGap hnames =>
    simp only [State.leave]
    split_ifs
    · exact .some (.content hrest (.element tag hbefore hbeforeGap hnames hitems hgap)
        (by simp [tagEnds_element]))
    · exact .none

theorem State.Alike.delimit (h : head.Alike head') (c : Char) :
    Option.Rel (State.Alike (some c)) (State.delimit ⟨opened, items, place⟩ head c)
      (State.delimit ⟨opened', spaced ++ gap, place'⟩ head' c) := by
  unfold State.delimit
  split_ifs with hblank hend hslash
  · exact .some (.tag hopened hitems hgap (.inside h))
  · subst hend
    exact State.Alike.enter hopened hitems hgap h
  · exact .some (.tag hopened hitems hgap (.slash h))
  · exact .none

theorem State.Alike.step_tag (h : place.Alike place') (c : Char) :
    Option.Rel (State.Alike (some c)) (step flavor ⟨opened, items, place⟩ c)
      (step flavor ⟨opened', spaced ++ gap, place'⟩ c) := by
  have move {next next' : Place} (hnext : next.Alike next') :
      Option.Rel (State.Alike (some c)) (some ⟨opened, items, next⟩)
        (some ⟨opened', spaced ++ gap, next'⟩) :=
    .some (.tag hopened hitems hgap hnext)
  cases h with
  | bracket =>
    simp only [step]
    split_ifs
    · exact move (.closing [])
    · exact move (.name [c])
    · exact .none
  | closing name =>
    simp only [step]
    split_ifs with halnum hend
    · exact move (.closing _)
    · subst hend
      exact State.Alike.leave hopened hitems hgap name
    · exact .none
  | name name =>
    simp only [step]
    split_ifs
    · exact move (.name _)
    · exact State.Alike.delimit hopened hitems hgap (.start name) c
  | inside hhead =>
    simp only [step]
    split_ifs
    · exact move (.key hhead _)
    · exact State.Alike.delimit hopened hitems hgap hhead c
  | key hhead key =>
    simp only [step]
    split_ifs
    · exact move (.key hhead _)
    · exact move (.assigned hhead key)
    · exact .none
  | assigned hhead key =>
    simp only [step]
    split_ifs
    · exact move (.quoted hhead key [] [])
    · exact move (.braced hhead key .none [] [])
    · exact .none
  | quoted hhead key text text' =>
    simp only [step]
    split_ifs
    · exact move (.inside (hhead.add key _ _))
    · exact move (.quoted hhead key _ _)
  | braced hhead key nesting text text' =>
    simp only [step]
    split
    · exact move (.inside (hhead.add key _ _))
    · exact move (.braced hhead key _ _ _)
  | slash hhead =>
    simp only [step]
    split_ifs with hend
    · refine .some (.content hopened ?_ (by simp [tagEnds_component, hend]))
      rw [← hhead.name]
      exact .component _ hitems hgap hhead.attributes
    · exact .none

end

theorem State.Alike.step {previous : Option Char} {s s' : State} (h : State.Alike previous s s')
    {c : Char} (hc : ¬ (previous = some '>' ∧ c = '<')) :
    Option.Rel (State.Alike (some c)) (Reader.step flavor s c) (Reader.step flavor s' c) := by
  cases h with
  | tag hopened hitems hgap hplace => exact State.Alike.step_tag hopened hitems hgap hplace c
  | content hopened hitems hends =>
    rename_i opened opened' items spaced
    simp only [Reader.step]
    split_ifs with hbracket hcontent
    · have hgap : Gap (tagEnds (!opened.isEmpty) items) [] := by
        rw [Bool.eq_false_iff.mpr fun h => hc ⟨hends.mp h, hbracket⟩]
        exact .none
      rw [← List.append_nil spaced]
      exact .some (.tag hopened hitems hgap .bracket)
    · have hne : c ≠ '>' := by rintro rfl; revert hcontent; cases flavor <;> decide
      exact .some (.content hopened (hitems.addChar c) (by simp [tagEnds_addChar, hne]))
    · exact .none

theorem isPlain_breakText (blanks : Nat) : IsPlain (breakText blanks ++ ['<']) := by
  intro c hc
  rcases List.mem_append.mp hc with hbreak | hbracket
  · rcases mem_breakText hbreak with rfl | rfl <;> decide
  · obtain rfl := List.mem_singleton.mp hbracket
    decide

/-- At a boundary the reader of the text with breaks takes a break as well: as a text of its own if
a tag ends there, and as a part of the value if the boundary is in one. -/
theorem State.Alike.boundary {s s' t : State} (h : State.Alike (some '>') s s')
    (ht : Reader.step flavor s '<' = some t) (blanks : Nat) :
    ∃ t', run flavor s' (breakText blanks ++ ['<']) = some t' ∧ State.Alike (some '<') t t' := by
  cases h with
  | content hopened hitems hends =>
    have hends := hends.mpr rfl
    have hcontent : ∀ c ∈ breakText blanks, isContentChar flavor c = true := by
      intro c hc
      rcases mem_breakText hc with rfl | rfl <;> cases flavor <;> rfl
    cases ht
    refine ⟨_, ?_, .tag hopened hitems (.of_ends hends blanks) .bracket⟩
    rw [run_append_of (run_text hcontent), hitems.addText_breakText hends]
    rfl
  | tag hopened hitems hgap hplace =>
    have hplain := isPlain_breakText blanks
    have halnum : '<'.isAlphanum = false := by decide
    have hkey : isKeyChar '<' = false := by decide
    have hblank : Unicode.isBlank '<' = false := by decide
    cases hplace with
    | quoted hhead key text text' =>
      cases ht
      have hquote : ∀ c ∈ breakText blanks ++ ['<'], c ≠ '"' := by
        rintro c hc rfl
        exact hplain _ hc (.head _)
      exact ⟨_, run_gather (.quoted _ key) (· ≠ '"') (fun acc c hc => by simp [Reader.step, hc])
        hquote text', .tag hopened hitems hgap (.quoted hhead key _ _)⟩
    | braced hhead key nesting text text' =>
      simp only [Reader.step, Nesting.next_plain (show '<' ∉ ['"', '\x7b', '\x7d'] by decide)] at ht
      cases ht
      exact ⟨_, run_nesting (Nesting.after_plain hplain nesting) text',
        .tag hopened hitems hgap (.braced hhead key nesting _ _)⟩
    | _ => simp [Reader.step, State.delimit, halnum, hkey, hblank] at ht

theorem exists_of_rel {α β : Type} {R : α → β → Prop} {x : Option α} {y : Option β} {a : α}
    (h : Option.Rel R x y) (hx : x = some a) : ∃ b, y = some b ∧ R a b := by
  cases h with
  | some h => cases hx; exact ⟨_, rfl, h⟩
  | none => cases hx

theorem State.Alike.run {previous : Option Char} {text broken : List Char}
    (hbroken : Broken previous text broken) {s s' t : State} (h : State.Alike previous s s')
    (ht : Reader.run flavor s text = some t) :
    ∃ t' last, Reader.run flavor s' broken = some t' ∧ State.Alike last t t' := by
  induction hbroken generalizing s s' with
  | nil previous =>
    cases ht
    exact ⟨s', previous, rfl, h⟩
  | char hc hrest ih =>
    rw [run_cons, Option.bind_eq_some_iff] at ht
    obtain ⟨u, hu, ht⟩ := ht
    obtain ⟨u', hu', halike⟩ := exists_of_rel (h.step hc) hu
    rw [run_cons_of hu']
    exact ih halike ht
  | boundary blanks hrest ih =>
    rw [run_cons, Option.bind_eq_some_iff] at ht
    obtain ⟨u, hu, ht⟩ := ht
    obtain ⟨u', hu', halike⟩ := h.boundary hu blanks
    rw [← List.singleton_append, ← List.append_assoc, run_append_of hu']
    exact ih halike ht

/-- **Indented markup is read as the same markup**: if a text can be read, then the indented text can
be as well, with the same items, but for the breaks between the tags and in the values. -/
theorem read_indent {text : String} (h : read flavor text = some items) :
    ∃ spaced, read flavor (Markup.indent text) = some spaced ∧ Spaced false items spaced := by
  obtain ⟨t, ht, hresult⟩ := Option.bind_eq_some_iff.mp h
  have hstart : State.Alike none start start := .content .nil (.nil false) (by simp [tagEnds_nil])
  obtain ⟨t', last, ht', halike⟩ := hstart.run (broken_indent text) ht
  cases halike with
  | content hopened hitems hends =>
    cases hopened with
    | nil =>
      cases hresult
      exact ⟨_, by rw [read, ht']; rfl, hitems⟩
    | cons => cases hresult
  | tag hopened hitems hgap hplace =>
    -- nothing has been read when a text ends in a tag
    cases hplace <;> cases hopened <;> cases hresult

end Reader

end SceneMarkup
