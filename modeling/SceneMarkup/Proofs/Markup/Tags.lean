import SceneMarkup.Proofs.Markup.Reader

/-!
# Reading tags

What a reader does on the parts that tags are written from: names, quoted and braced attributes, the
ends of tags. A place is at a head (`Place.At`) after the name of a tag and after each of its
attributes; there an attribute may follow or the tag may end.
-/

namespace SceneMarkup.Reader

variable {flavor : Flavor} {o : List OpenElement} {i : List Item}

/-! ## Runs of a machine that takes characters -/

section

variable {S : Type} {step : S → Char → Option S}

theorem foldlM_append_of {s t : S} {a : List Char} (h : a.foldlM step s = some t)
    (b : List Char) : (a ++ b).foldlM step s = b.foldlM step t := by
  rw [List.foldlM_append, h]; rfl

theorem foldlM_gather (state : List Char → S) (p : Char → Prop)
    (hstep : ∀ acc c, p c → step (state acc) c = some (state (acc ++ [c]))) {text : List Char}
    (htext : ∀ c ∈ text, p c) (acc : List Char) :
    text.foldlM step (state acc) = some (state (acc ++ text)) := by
  induction text generalizing acc with
  | nil => rw [List.append_nil]; rfl
  | cons c rest ih =>
    obtain ⟨hc, hrest⟩ := List.forall_mem_cons.mp htext
    rw [List.foldlM_cons, hstep acc c hc]
    exact (ih hrest _).trans (by rw [List.append_assoc, List.singleton_append])

end

theorem run_nil (flavor : Flavor) (s : State) : run flavor s [] = some s := rfl

theorem run_cons (flavor : Flavor) (s : State) (c : Char) (text : List Char) :
    run flavor s (c :: text) = (step flavor s c).bind (run flavor · text) := rfl

theorem run_append (flavor : Flavor) (s : State) (a b : List Char) :
    run flavor s (a ++ b) = (run flavor s a).bind (run flavor · b) := List.foldlM_append

theorem run_cons_of {s t : State} {c : Char} (h : step flavor s c = some t) (text : List Char) :
    run flavor s (c :: text) = run flavor t text := by
  rw [run_cons, h]; rfl

theorem run_append_of {s t : State} {a : List Char} (h : run flavor s a = some t) (b : List Char) :
    run flavor s (a ++ b) = run flavor t b := foldlM_append_of h b

theorem run_append_of_none {s : State} {a : List Char} (h : run flavor s a = none) (b : List Char) :
    run flavor s (a ++ b) = none := by
  rw [run_append, h]; rfl

/-- A place that gathers the characters it accepts gathers a text of them. -/
theorem run_gather (place : List Char → Place) (p : Char → Prop)
    (hstep : ∀ acc c, p c → step flavor ⟨o, i, place acc⟩ c = some ⟨o, i, place (acc ++ [c])⟩)
    {text : List Char} (htext : ∀ c ∈ text, p c) (acc : List Char) :
    run flavor ⟨o, i, place acc⟩ text = some ⟨o, i, place (acc ++ text)⟩ :=
  foldlM_gather (fun acc => (⟨o, i, place acc⟩ : State)) p hstep htext acc

/-! ## Names -/

def IsTagName (name : List Char) : Prop := name ≠ [] ∧ ∀ c ∈ name, c.isAlphanum = true

instance (name : List Char) : Decidable (IsTagName name) :=
  decidable_of_iff (name ≠ [] ∧ name.all Char.isAlphanum = true)
    (by rw [IsTagName, List.all_eq_true])

theorem isTagName_name (tag : Tag) : IsTagName tag.name.toList := by cases tag <;> decide

theorem slash_of_isAlphanum {c : Char} (h : c.isAlphanum = true) : c ≠ '/' := by
  rintro rfl; revert h; decide

theorem run_tagName {name : List Char} (h : IsTagName name) :
    run flavor ⟨o, i, .content⟩ ('<' :: name) = some ⟨o, i, .name name⟩ := by
  obtain ⟨hne, hname⟩ := h
  cases name with
  | nil => exact absurd rfl hne
  | cons c rest =>
    obtain ⟨hc, hrest⟩ := List.forall_mem_cons.mp hname
    rw [run_cons_of (t := ⟨o, i, .bracket⟩) rfl, run_cons_of (t := ⟨o, i, .name [c]⟩)]
    · exact run_gather .name (fun c => c.isAlphanum = true)
        (fun acc c hc => by simp [step, hc]) hrest [c]
    · simp [step, slash_of_isAlphanum hc, hc]

theorem run_closingName {name : List Char} (h : ∀ c ∈ name, c.isAlphanum = true) :
    run flavor ⟨o, i, .content⟩ ('<' :: '/' :: name) = some ⟨o, i, .closing name⟩ := by
  rw [run_cons_of (t := ⟨o, i, .bracket⟩) rfl, run_cons_of (t := ⟨o, i, .closing []⟩) rfl]
  exact run_gather .closing (fun c => c.isAlphanum = true)
    (fun acc c hc => by simp [step, hc]) h []

/-! ## Attributes -/

def IsKey (key : List Char) : Prop := key ≠ [] ∧ ∀ c ∈ key, isKeyChar c = true

instance (key : List Char) : Decidable (IsKey key) :=
  decidable_of_iff (key ≠ [] ∧ key.all isKeyChar = true) (by rw [IsKey, List.all_eq_true])

/-- Places where a tag is read up to a head and an attribute may follow. -/
inductive Place.At : Place → Head → Prop where
  | name (name : List Char) : At (.name name) ⟨name, []⟩
  | inside (head : Head) : At (.inside head) head

theorem Place.At.blank {place : Place} {head : Head} (h : place.At head) :
    step flavor ⟨o, i, place⟩ ' ' = some ⟨o, i, .inside head⟩ := by
  cases h <;> rfl

theorem Place.At.enter {place : Place} {head : Head} (h : place.At head) :
    step flavor ⟨o, i, place⟩ '>' = State.enter ⟨o, i, place⟩ head := by
  cases h <;> rfl

theorem run_key {place : Place} {head : Head} (h : place.At head) {key : List Char}
    (hkey : IsKey key) (rest : List Char) :
    run flavor ⟨o, i, place⟩ (' ' :: (key ++ '=' :: rest)) =
      run flavor ⟨o, i, .assigned head key⟩ rest := by
  obtain ⟨hne, hkey⟩ := hkey
  cases key with
  | nil => exact absurd rfl hne
  | cons c key =>
    obtain ⟨hc, hkey⟩ := List.forall_mem_cons.mp hkey
    rw [run_cons_of h.blank, List.cons_append, run_cons_of (t := ⟨o, i, .key head [c]⟩),
      run_append_of (run_gather (.key head) (fun c => isKeyChar c = true)
        (fun acc c hc => by simp [step, hc]) hkey [c])]
    · exact run_cons_of rfl rest
    · simp [step, hc]

theorem run_quoted {place : Place} {head : Head} (h : place.At head) {key : List Char}
    (hkey : IsKey key) {text : List Char} (htext : '"' ∉ text) :
    run flavor ⟨o, i, place⟩ (' ' :: (key ++ '=' :: '"' :: (text ++ ['"']))) =
      some ⟨o, i, .inside (head.add key (.quoted text))⟩ := by
  rw [run_key h hkey, run_cons_of (t := ⟨o, i, .quoted head key []⟩) rfl,
    run_append_of (run_gather (.quoted head key) (· ≠ '"')
      (fun acc c hc => by simp [step, hc]) (fun c hc => by rintro rfl; exact htext hc) [])]
  rfl

/-- The nesting after a text; nothing if the braced value ends in it. -/
def Nesting.after (n : Nesting) (text : List Char) : Option Nesting := text.foldlM Nesting.next n

theorem Nesting.after_append {n m : Nesting} {a : List Char} (h : n.after a = some m)
    (b : List Char) : n.after (a ++ b) = m.after b := foldlM_append_of h b

theorem Nesting.after_quotes {text : List Char} (h : '"' ∉ text) (depth : Nat) :
    (Nesting.mk depth true).after text = some ⟨depth, true⟩ := by
  induction text with
  | nil => rfl
  | cons c rest ih =>
    obtain ⟨hc, hrest⟩ := List.ne_and_not_mem_of_not_mem_cons h
    simp only [after, List.foldlM_cons, next, hc.symm, if_false, if_true]
    exact ih hrest

def IsPlain (text : List Char) : Prop := ∀ c ∈ text, c ∉ ['"', '\x7b', '\x7d']

instance (text : List Char) : Decidable (IsPlain text) :=
  decidable_of_iff (text.all (fun c => c ∉ ['"', '\x7b', '\x7d']) = true)
    (by simp only [IsPlain, List.all_eq_true, decide_eq_true_eq])

theorem Nesting.next_plain {c : Char} (h : c ∉ ['"', '\x7b', '\x7d']) (n : Nesting) :
    n.next c = some n := by
  simp only [List.mem_cons, List.not_mem_nil, or_false, not_or] at h
  simp only [next, h, if_false, ite_self]

/-- A plain text changes nothing, in quotes or outside of them. -/
theorem Nesting.after_plain {text : List Char} (h : IsPlain text) (n : Nesting) :
    n.after text = some n := by
  induction text with
  | nil => rfl
  | cons c rest ih =>
    obtain ⟨hc, hrest⟩ := List.forall_mem_cons.mp h
    rw [after, List.foldlM_cons, next_plain hc]
    exact ih hrest

theorem run_nesting {head : Head} {key text : List Char} {n m : Nesting} (h : n.after text = some m)
    (acc : List Char) :
    run flavor ⟨o, i, .braced head key n acc⟩ text =
      some ⟨o, i, .braced head key m (acc ++ text)⟩ := by
  induction text generalizing n acc with
  | nil =>
    obtain rfl : n = m := by simpa [Nesting.after] using h
    rw [List.append_nil, run_nil]
  | cons c rest ih =>
    simp only [Nesting.after, List.foldlM_cons, Option.bind_eq_bind, Option.bind_eq_some_iff] at h
    obtain ⟨k, hk, hrest⟩ := h
    rw [run_cons_of (t := ⟨o, i, .braced head key k (acc ++ [c])⟩) (by simp only [step, hk]),
      ih hrest, List.append_assoc, List.singleton_append]

theorem run_braced {place : Place} {head : Head} (h : place.At head) {key : List Char}
    (hkey : IsKey key) {text : List Char} (htext : Nesting.none.after text = some .none) :
    run flavor ⟨o, i, place⟩ (' ' :: (key ++ '=' :: '\x7b' :: (text ++ ['\x7d']))) =
      some ⟨o, i, .inside (head.add key (.braced text))⟩ := by
  rw [run_key h hkey, run_cons_of (t := ⟨o, i, .braced head key .none []⟩) rfl,
    run_append_of (run_nesting htext [])]
  rfl

/-! ## Ends of tags -/

theorem run_enter {place : Place} {head : Head} (h : place.At head) {tag : Tag}
    (hname : head.name = tag.name.toList) :
    run flavor ⟨o, i, place⟩ ['>'] = some ⟨⟨tag, head.attributes, i⟩ :: o, [], .content⟩ := by
  have htag : tagOfName? head.name = some tag := by rw [hname]; cases tag <;> rfl
  rw [run_cons, h.enter, State.enter, htag]; rfl

theorem run_selfClose {place : Place} {head : Head} (h : place.At head) :
    run flavor ⟨o, i, place⟩ [' ', '/', '>'] =
      some ⟨o, i ++ [.component head.name head.attributes], .content⟩ := by
  rw [run_cons_of h.blank]; rfl

theorem run_leave {tag : Tag} {attributes : List RawAttribute} {before : List Item} :
    run flavor ⟨⟨tag, attributes, before⟩ :: o, i, .content⟩
        ('<' :: '/' :: (tag.name.toList ++ ['>'])) =
      some ⟨o, before ++ [.element tag attributes i], .content⟩ := by
  have hname := (isTagName_name tag).2
  rw [← List.cons_append, ← List.cons_append, run_append_of (run_closingName hname),
    run_cons_of (t := ⟨o, before ++ [.element tag attributes i], .content⟩), run_nil]
  have hgt : '>'.isAlphanum = false := by decide
  simp [step, State.leave, hgt]

/-! ## Content -/

def addText (items : List Item) (text : List Char) : List Item := text.foldl addChar items

theorem run_text {text : List Char} (h : ∀ c ∈ text, isContentChar flavor c = true) :
    run flavor ⟨o, i, .content⟩ text = some ⟨o, addText i text, .content⟩ := by
  induction text generalizing i with
  | nil => rfl
  | cons c rest ih =>
    obtain ⟨hc, hrest⟩ := List.forall_mem_cons.mp h
    have hlt : c ≠ '<' := by rintro rfl; revert hc; cases flavor <;> decide
    rw [run_cons_of (t := ⟨o, addChar i c, .content⟩) (by simp [step, hlt, hc]), ih hrest]
    rfl

theorem addChar_text (items : List Item) (characters : List Char) (c : Char) :
    addChar (items ++ [.text characters]) c = items ++ [.text (characters ++ [c])] := by
  simp [addChar]

theorem addText_text (items : List Item) (characters text : List Char) :
    addText (items ++ [.text characters]) text = items ++ [.text (characters ++ text)] := by
  induction text generalizing characters with
  | nil => rw [List.append_nil]; rfl
  | cons c rest ih =>
    have hrest := ih (characters ++ [c])
    rwa [← addChar_text, List.append_assoc, List.singleton_append] at hrest

theorem addText_of_not_text {items : List Item}
    (h : ∀ characters, items.getLast? ≠ some (.text characters)) {text : List Char}
    (hne : text ≠ []) : addText items text = items ++ [.text text] := by
  cases text with
  | nil => exact absurd rfl hne
  | cons c rest =>
    have hfirst : addChar items c = items ++ [.text [c]] := by
      unfold addChar
      split
      · rename_i characters hlast
        exact absurd hlast (h characters)
      · rfl
    rw [addText, List.foldl_cons, hfirst]
    exact addText_text items [c] rest

theorem addText_nil {text : List Char} (h : text ≠ []) : addText [] text = [.text text] :=
  addText_of_not_text (by simp) h

end SceneMarkup.Reader
