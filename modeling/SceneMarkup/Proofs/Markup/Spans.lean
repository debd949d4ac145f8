import SceneMarkup.Proofs.Markup.Breaks
import SceneMarkup.Proofs.Markup.Page

/-!
# Spans

Texts are written in spans. `Reader.readSpans` reads what each span of a markup text holds, in their
order. Indenting keeps what a span holds, unless it holds nothing: the tags of an empty span follow
each other, so a break comes between them (`readSpans_indent`).
-/

namespace SceneMarkup

namespace Reader

open Markup (breakText mem_breakText)

/-! ## Reading spans -/

def textOf? : List Item → Option String
  | [] => some ""
  | [.text characters] => some (resolveText characters)
  | _ => none

mutual

/-- What the spans in an item hold; nothing if there is a tag in one of them. -/
def Item.spans? : Item → Option (List String)
  | text _ => some []
  | element .span _ content => (textOf? content).map ([·])
  | element .div _ content => spansOf? content
  | component _ _ => some []

def Item.spansOf? : List Item → Option (List String)
  | [] => some []
  | item :: rest => item.spans?.bind fun first => (spansOf? rest).map (first ++ ·)

end

def readSpans (flavor : Flavor) (text : String) : Option (List String) :=
  (read flavor text).bind Item.spansOf?

theorem Item.spansOf?_append (a b : List Item) :
    spansOf? (a ++ b) = (spansOf? a).bind fun x => (spansOf? b).map (x ++ ·) := by
  induction a with
  | nil => simp [spansOf?]
  | cons item rest ih =>
    rw [List.cons_append, spansOf?, spansOf?, ih]
    cases item.spans? <;> cases spansOf? rest <;> cases spansOf? b <;> simp

theorem Item.spansOf?_singleton (item : Item) : spansOf? [item] = item.spans? := by
  rw [spansOf?]
  cases item.spans? <;> simp [spansOf?]

theorem Item.spansOf?_concat_eq_some_iff {items : List Item} {item : Item} {spans : List String} :
    spansOf? (items ++ [item]) = some spans ↔
      ∃ before last, spansOf? items = some before ∧ item.spans? = some last ∧
        before ++ last = spans := by
  rw [spansOf?_append, spansOf?_singleton]
  simp only [Option.bind_eq_some_iff, Option.map_eq_some_iff]
  exact ⟨fun ⟨before, hbefore, last, hlast, h⟩ => ⟨before, last, hbefore, hlast, h⟩,
    fun ⟨before, last, hbefore, hlast, h⟩ => ⟨before, hbefore, last, hlast, h⟩⟩

/-! ## Spans with breaks -/

theorem resolveText_breakText (blanks : Nat) :
    resolveText (breakText blanks) = String.ofList (breakText blanks) := by
  have hamp : '&' ∉ breakText blanks := by
    intro hmem
    rcases mem_breakText hmem with h | h <;> cases h
  rw [resolveText, EntityTable.resolve_of_not_mem _ hamp]

theorem resolveText_ne_empty {characters : List Char} (h : characters ≠ []) :
    resolveText characters ≠ "" := by
  intro hempty
  refine EntityTable.resolve_ne_nil EntityTable.references h ?_
  rwa [resolveText, ← String.toList_inj, String.toList_ofList] at hempty

/-- What a span holds, and what it holds with breaks between the tags. -/
inductive SpanSpaced : String → String → Prop where
  | text {text : String} (h : text ≠ "") : SpanSpaced text text
  | empty (blanks : Nat) : SpanSpaced "" (String.ofList (breakText blanks))

variable {flavor : Flavor} {first : Bool} {items spaced : List Item} {spans : List String}

/-- If the spans of some items can be read, then those of the items with breaks can be as well. -/
def SpansSpaced (found found' : Option (List String)) : Prop :=
  ∀ spans, found = some spans → ∃ spans', found' = some spans' ∧ List.Forall₂ SpanSpaced spans spans'

theorem SpanSpaced.eq_iff {text text' : String} (h : SpanSpaced text text') :
    text' = text ↔ text ≠ "" := by
  cases h with
  | text h => simpa using h
  | empty blanks =>
    have hne : String.ofList (breakText blanks) ≠ "" := by
      rw [Ne, ← String.toList_inj, String.toList_ofList]
      exact List.cons_ne_nil _ _
    simpa using hne

theorem forall₂_spanSpaced_eq_iff {spans' : List String}
    (h : List.Forall₂ SpanSpaced spans spans') : spans' = spans ↔ "" ∉ spans := by
  induction h with
  | nil => simp
  | cons hspan _ ih =>
    rw [List.cons_eq_cons, hspan.eq_iff, ih, List.mem_cons, not_or, ne_comm]

theorem Gap.spansOf?_append {ends : Bool} {gap : List Item} (h : Gap ends gap)
    (items : List Item) : Item.spansOf? (items ++ gap) = Item.spansOf? items := by
  have hgap : Item.spansOf? gap = some [] := by cases h <;> rfl
  rw [Item.spansOf?_append, hgap]
  cases Item.spansOf? items <;> simp

theorem Spaced.eq_nil (h : Spaced first items spaced) (hitems : items = []) : spaced = [] := by
  cases h <;> simp_all

theorem Spaced.eq_text {characters : List Char} (h : Spaced first items spaced)
    (hitems : items = [.text characters]) : spaced = [.text characters] ∧ characters ≠ [] := by
  cases h with
  | nil => cases hitems
  | text h hne =>
    obtain ⟨hnil, hlast⟩ := List.append_eq_singleton_iff.mp hitems |>.resolve_right (by simp)
    cases hlast
    exact ⟨by rw [h.eq_nil hnil, List.nil_append], hne⟩
  | element => simp [List.append_eq_singleton_iff] at hitems
  | component => simp [List.append_eq_singleton_iff] at hitems

theorem Spaced.textOf? {content inner last : List Item} (h : Spaced true content inner)
    (hlast : Gap (tagEnds true content) last) {text : String}
    (htext : Reader.textOf? content = some text) :
    ∃ text', Reader.textOf? (inner ++ last) = some text' ∧ SpanSpaced text text' := by
  unfold Reader.textOf? at htext
  split at htext
  · rw [h.eq_nil rfl]
    cases htext
    cases hlast with
    | «break» blanks => exact ⟨_, congrArg some (resolveText_breakText blanks), .empty blanks⟩
  · obtain ⟨rfl, hne⟩ := h.eq_text rfl
    cases htext
    cases hlast with
    | none => exact ⟨_, rfl, .text (resolveText_ne_empty hne)⟩
  · cases htext

theorem SpansSpaced.nil : SpansSpaced (some []) (some []) := by
  rintro spans ⟨⟩
  exact ⟨[], rfl, .nil⟩

theorem SpansSpaced.concat {ends : Bool} {gap : List Item} {item item' : Item}
    (h : SpansSpaced (Item.spansOf? items) (Item.spansOf? spaced)) (hgap : Gap ends gap)
    (hitem : SpansSpaced item.spans? item'.spans?) :
    SpansSpaced (Item.spansOf? (items ++ [item])) (Item.spansOf? (spaced ++ gap ++ [item'])) := by
  intro spans hspans
  obtain ⟨before, last, hbefore, hlast, rfl⟩ := Item.spansOf?_concat_eq_some_iff.mp hspans
  obtain ⟨before', hbefore', hall⟩ := h before hbefore
  obtain ⟨last', hlast', hlastAll⟩ := hitem last hlast
  rw [← hgap.spansOf?_append] at hbefore'
  exact ⟨_, Item.spansOf?_concat_eq_some_iff.mpr ⟨_, _, hbefore', hlast', rfl⟩,
    List.rel_append hall hlastAll⟩

/-- The spans are the same with breaks, but for the empty ones. -/
theorem Spaced.spansOf? (h : Spaced first items spaced) :
    SpansSpaced (Item.spansOf? items) (Item.spansOf? spaced) := by
  induction h with
  | nil => exact .nil
  | @text _ _ _ h characters hne ih =>
    have htext : SpansSpaced (Item.text characters).spans? (Item.text characters).spans? := .nil
    have hsame := ih.concat .none htext
    rwa [List.append_nil] at hsame
  | component name h hgap hnames ih => exact ih.concat hgap .nil
  | element tag h hgap hnames hcontent hlast ih ihcontent =>
    refine ih.concat hgap ?_
    cases tag with
    | div =>
      rw [Item.spans?, Item.spans?, hlast.spansOf?_append]
      exact ihcontent
    | span =>
      intro spans hspans
      obtain ⟨text, htext, rfl⟩ := Option.map_eq_some_iff.mp hspans
      obtain ⟨text', htext', hspan⟩ := hcontent.textOf? hlast htext
      exact ⟨[text'], by rw [Item.spans?, htext']; rfl, .cons hspan .nil⟩

/-- **Indenting keeps what spans hold**: if the spans of a text can be read, then those of the
indented text can be as well, and each holds the same, but for the empty ones, which hold a break. -/
theorem readSpans_indent {text : String} (h : readSpans flavor text = some spans) :
    ∃ spans', readSpans flavor (Markup.indent text) = some spans' ∧
      List.Forall₂ SpanSpaced spans spans' := by
  obtain ⟨items, hitems, hspans⟩ := Option.bind_eq_some_iff.mp h
  obtain ⟨spaced, hread, hspaced⟩ := read_indent hitems
  rw [readSpans, hread]
  exact hspaced.spansOf? spans hspans

theorem readSpans_indent_eq_iff {text : String} (h : readSpans flavor text = some spans) :
    readSpans flavor (Markup.indent text) = readSpans flavor text ↔ "" ∉ spans := by
  obtain ⟨spans', hread, hall⟩ := readSpans_indent h
  rw [h, hread, Option.some.injEq, forall₂_spanSpaced_eq_iff hall]

example :
    readSpans .html (Markup.indent "<div><span> a\n</span><span></span></div>") =
      some [" a\n", "\n    "] := by
  cbv

end Reader

/-! ## Spans of trees -/

open Reader

namespace Markup

/-- The trees can be read one after the other, after whatever came before them, and then their spans
hold these texts. -/
structure HasSpans (content : List Markup) (spans : List String) : Prop where
  readable : AllReadable content
  items : ∀ flavor before, ∃ found, allItems flavor before content = before ++ found ∧
    Item.spansOf? found = some spans

variable {tag : Tag} {look : Look} {title : Option String} {content rest : List Markup} {m : Markup}
  {spans more : List String}

theorem HasSpans.nil : HasSpans [] [] :=
  ⟨trivial, fun _ before => ⟨[], (List.append_nil before).symm, rfl⟩⟩

theorem HasSpans.eq_nil (h : HasSpans [] spans) : spans = [] := by
  obtain ⟨found, hfound, hspans⟩ := h.items .html []
  obtain rfl : [] = found := hfound
  cases hspans
  rfl

theorem HasSpans.cons (hm : HasSpans [m] spans) (hrest : HasSpans rest more) :
    HasSpans (m :: rest) (spans ++ more) := by
  refine ⟨⟨hm.readable.1, hrest.readable⟩, fun flavor before => ?_⟩
  obtain ⟨first, hfirst, hspans⟩ := hm.items flavor before
  obtain ⟨found, hfound, hmore⟩ := hrest.items flavor (before ++ first)
  refine ⟨first ++ found, ?_, by rw [Item.spansOf?_append, hspans, hmore]; rfl⟩
  rw [allItems, allItems] at hfirst
  rw [allItems, hfirst, hfound, List.append_assoc]

theorem HasSpans.element (hlook : look.IsReadable) (hreadable : AllReadable content)
    (h : ∀ flavor attributes,
      (Item.element tag attributes (allItems flavor [] content)).spans? = some spans) :
    HasSpans [.element tag look title content] spans := by
  have hall : AllReadable [.element tag look title content] := ⟨⟨hlook, hreadable⟩, trivial⟩
  refine ⟨hall, fun flavor before => ?_⟩
  refine ⟨[.element tag (rawAttributes flavor look title) (allItems flavor [] content)], ?_, ?_⟩
  · rw [allItems, allItems, Markup.items]
  · rw [Item.spansOf?_singleton]
    exact h flavor _

theorem HasSpans.div (hlook : look.IsReadable) (h : HasSpans content spans) :
    HasSpans [.element .div look title content] spans := by
  refine .element hlook h.readable fun flavor attributes => ?_
  obtain ⟨found, hfound, hspans⟩ := h.items flavor []
  rwa [Item.spans?, hfound]

theorem spansOf?_addText (text : List Char) : Item.spansOf? (addText [] text) = some [] := by
  cases text with
  | nil => rfl
  | cons c rest =>
    rw [addText_nil (List.cons_ne_nil c rest)]
    rfl

theorem textOf?_addText (text : List Char) :
    textOf? (addText [] text) = some (resolveText text) := by
  cases text with
  | nil => rfl
  | cons c rest =>
    rw [addText_nil (List.cons_ne_nil c rest)]
    rfl

theorem HasSpans.box (hlook : look.IsReadable)
    (hm : m = .marker ∨ ∃ characters, m = .text characters) :
    HasSpans [.element .div look title [m]] [] := by
  rcases hm with rfl | ⟨characters, rfl⟩ <;>
    exact .element hlook ⟨trivial, trivial⟩ fun flavor attributes => spansOf?_addText _

theorem HasSpans.span (hlook : look.IsReadable) (characters : String) :
    HasSpans [.element .span look title [.text characters]] [characters] := by
  refine .element hlook ⟨trivial, trivial⟩ fun flavor attributes => ?_
  rw [Item.spans?, allItems, allItems, Markup.items, textOf?_addText,
    resolveText_encode (resolves_entities flavor)]
  rfl

theorem HasSpans.readSpans (h : HasSpans [m] spans) (flavor : Flavor) :
    Reader.readSpans flavor (m.render flavor) = some spans := by
  obtain ⟨found, hfound, hspans⟩ := h.items flavor []
  rw [allItems, allItems, List.nil_append] at hfound
  rw [Reader.readSpans, read_render h.readable.1, hfound]
  exact hspans

end Markup

end SceneMarkup
