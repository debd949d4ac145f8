import Mathlib.Logic.Function.Basic
import SceneMarkup.Markup.Render
import SceneMarkup.Proofs.Text.Entities

/-!
# Escaping loses nothing

A table escapes losslessly (`EntityTable.IsLossless`) if it reads back every text that it has
written, writes no character that is forbidden in the place it is for, and no ampersand but at the
beginning of one of its own entities. All tables do (`isLossless_entities`). Escaping in one pass is
replacing one character after the other (`encode_encode`) as long as no later step replaces a
character of an entity that an earlier one has written, so `&` goes first.
-/

namespace SceneMarkup

namespace EntityTable

variable {table first second : EntityTable}

/-! ## One replacement after the other -/

/-- Escaping with two tables in turn is escaping with both at once. -/
theorem encode_encode (h : ∀ p ∈ first, ∀ q ∈ second, q.1 ∉ p.2.toList) (text : List Char) :
    second.encode (first.encode text) = encode (first ++ second) text := by
  induction text with
  | nil => rfl
  | cons c rest ih =>
    rw [encode_cons, encode_append, ih, encode_cons]
    congr 1
    cases hc : first.lookup c with
    | some entity =>
      have hboth : List.lookup c (first ++ second) = some entity := by
        rw [List.lookup_append, hc, Option.some_or]
      rw [encodeChar_of_lookup hc, encodeChar_of_lookup hboth]
      exact encode_of_not_mem (h _ (mem_of_lookup hc))
    | none =>
      have hboth : List.lookup c (first ++ second) = second.lookup c := by
        rw [List.lookup_append, hc, Option.none_or]
      rw [encodeChar_of_not_lookup hc, encode_cons, encode_nil, List.append_nil, encodeChar,
        encodeChar, hboth]

theorem quotedValue_encode_eq (text : List Char) :
    quotedValue.encode text = encode [('"', "&quot;")] (encode [('&', "&amp;")] text) := by
  rw [encode_encode (by decide)]
  rfl

theorem bracedContent_encode_eq (text : List Char) :
    bracedContent.encode text =
      encode [('\x7d', "&#125;")] (encode [('\x7b', "&#123;")] (content.encode text)) := by
  rw [encode_encode (by decide), encode_encode (by decide)]
  rfl

/-- The other way round, the entity of a quote is damaged. -/
example : encode [('&', "&amp;")] (encode [('"', "&quot;")] ['"']) = "&amp;quot;".toList := by decide

/-! ## Ampersands -/

/-- Every entity begins with an ampersand and holds no other one. -/
def IsFormed (table : EntityTable) : Prop :=
  ∀ p ∈ table, p.2.toList.head? = some '&' ∧ '&' ∉ p.2.toList.tail

instance (table : EntityTable) : Decidable table.IsFormed :=
  inferInstanceAs (Decidable (∀ _ ∈ _, _))

theorem suffix_of_suffix_append {c : Char} {part rest more : List Char} (h : c ∉ part)
    (hsuffix : c :: rest <:+ part ++ more) : c :: rest <:+ more := by
  induction part with
  | nil => exact hsuffix
  | cons d part ih =>
    obtain ⟨hne, hpart⟩ := List.ne_and_not_mem_of_not_mem_cons h
    rw [List.cons_append, List.suffix_cons_iff] at hsuffix
    rcases hsuffix with heq | hsuffix
    · exact absurd (List.cons.inj heq).1 hne
    · exact ih hpart hsuffix

theorem exists_entity_of_suffix (hformed : table.IsFormed)
    (hamp : ∃ entity, ('&', entity) ∈ table) {text rest : List Char}
    (h : '&' :: rest <:+ table.encode text) : ∃ p ∈ table, p.2.toList <+: '&' :: rest := by
  obtain ⟨amp, hamp⟩ := hamp
  induction text with
  | nil => simp at h
  | cons c text ih =>
    rw [encode_cons] at h
    cases hc : table.lookup c with
    | some entity =>
      have hmem := mem_of_lookup hc
      obtain ⟨hhead, htail⟩ := hformed _ hmem
      obtain ⟨body, hentity⟩ := List.head?_eq_some_iff.mp hhead
      rw [hentity, List.tail_cons] at htail
      rw [encodeChar_of_lookup hc, hentity, List.cons_append, List.suffix_cons_iff] at h
      rcases h with heq | hsuffix
      · refine ⟨_, hmem, ?_⟩
        rw [hentity, heq]
        exact List.prefix_append (_ :: _) _
      · exact ih (suffix_of_suffix_append htail hsuffix)
    | none =>
      have hne : '&' ∉ [c] := by
        rw [List.mem_singleton]
        exact (ne_of_not_lookup hc hamp).symm
      rw [encodeChar_of_not_lookup hc] at h
      exact ih (suffix_of_suffix_append hne h)

/-! ## Lossless tables -/

/-- A table gives back what it has written, in which no forbidden character stands, and no ampersand
but those of its entities. -/
structure IsLossless (table : EntityTable) (forbidden : List Char) : Prop where
  decode_escape : ∀ text : String, table.decode (table.escape text).toList = some text.toList
  injective : Function.Injective table.escape
  not_mem_escape : ∀ text : String, ∀ c ∈ forbidden, c ∉ (table.escape text).toList
  begins_entity : ∀ (text : String) (rest : List Char), '&' :: rest <:+ (table.escape text).toList →
    ∃ p ∈ table, p.2.toList <+: '&' :: rest

theorem isLossless_of_reads {forbidden : List Char} (hreads : table.Reads table)
    (hformed : table.IsFormed)
    (hreplaced : forbidden ⊆ table.map Prod.fst)
    (habsent : ∀ p ∈ table, p.2.toList.all (· ∉ forbidden) = true) :
    table.IsLossless forbidden := by
  have hdecode (text : String) : table.decode (table.escape text).toList = some text.toList := by
    rw [escape, String.toList_ofList, decode_encode hreads]
  refine ⟨hdecode, fun a b hab => ?_, fun text c hc => ?_, fun text rest hrest => ?_⟩
  · have htexts : some a.toList = some b.toList := by rw [← hdecode a, hab, hdecode b]
    exact String.toList_inj.mp (Option.some.inj htexts)
  · obtain ⟨⟨d, entity⟩, hmem, rfl⟩ := List.mem_map.mp (hreplaced hc)
    rw [escape, String.toList_ofList]
    refine not_mem_encode hmem (fun p hp hd => ?_) text.toList
    simpa [hc] using List.all_eq_true.mp (habsent p hp) d hd
  · rw [escape, String.toList_ofList] at hrest
    exact exists_entity_of_suffix hformed hreads.1 hrest

theorem quotedValue_reads_self : quotedValue.Reads quotedValue := by
  refine ⟨⟨_, .head _⟩, fun p hp rest => ?_⟩
  simp only [quotedValue, List.mem_cons, List.not_mem_nil, or_false] at hp
  rcases hp with rfl | rfl <;> rfl

theorem content_reads_self : content.Reads content := by
  refine ⟨⟨_, .head _⟩, fun p hp rest => ?_⟩
  simp only [content, List.mem_cons, List.not_mem_nil, or_false] at hp
  rcases hp with rfl | rfl | rfl | rfl | rfl <;> rfl

theorem isLossless_quotedValue : quotedValue.IsLossless ['"'] :=
  isLossless_of_reads quotedValue_reads_self (by decide) (by decide) (by decide)

theorem isLossless_content : content.IsLossless ['<', '>', '"', '\''] :=
  isLossless_of_reads content_reads_self (by decide) (by decide) (by decide)

theorem isLossless_bracedContent :
    bracedContent.IsLossless ['<', '>', '"', '\'', '\x7b', '\x7d'] :=
  isLossless_of_reads reads_bracedContent (by decide) (by decide) (by decide)

end EntityTable

def Flavor.forbidden : Flavor → List Char
  | .html => ['<', '>', '"', '\'']
  | .jsx => ['<', '>', '"', '\'', '\x7b', '\x7d']

/-- **Escaping is lossless and safe**, for content and titles, for attribute values, and for text in
every flavor; and the one pass in which values and braces are escaped is the replacement of one
character after the other. -/
theorem isLossless_entities :
    (EntityTable.content.IsLossless ['<', '>', '"', '\''] ∧
      EntityTable.quotedValue.IsLossless ['"'] ∧
      ∀ flavor : Flavor, flavor.entities.IsLossless flavor.forbidden) ∧
    (∀ text, EntityTable.quotedValue.encode text =
      EntityTable.encode [('"', "&quot;")] (EntityTable.encode [('&', "&amp;")] text)) ∧
    ∀ text, Flavor.jsx.entities.encode text =
      EntityTable.encode [('\x7d', "&#125;")]
        (EntityTable.encode [('\x7b', "&#123;")] (Flavor.html.entities.encode text)) := by
  refine ⟨⟨EntityTable.isLossless_content, EntityTable.isLossless_quotedValue, fun flavor => ?_⟩,
    EntityTable.quotedValue_encode_eq, EntityTable.bracedContent_encode_eq⟩
  cases flavor with
  | html => exact EntityTable.isLossless_content
  | jsx => exact EntityTable.isLossless_bracedContent

end SceneMarkup
