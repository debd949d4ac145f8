import SceneMarkup.Text.Escape

/-!
# Reading character entities

`EntityTable.decode` reads a text in which entities stand for characters, in one pass from left to
right; an ampersand that begins no entity of the table is an error. A table that reads the entities
of another (`Reads`) gives back what the other one wrote (`decode_encode`), and a text that is written
with a table holds none of the characters that the table replaces (`not_mem_encode`).
-/

namespace SceneMarkup.EntityTable

def charOf? (table : EntityTable) (entity : List Char) : Option Char :=
  (table.find? fun p => p.2.toList == entity).map (·.1)

/-- Reads a text after the beginning of an entity, if one has begun. -/
def decodeFrom (table : EntityTable) : Option (List Char) → List Char → Option (List Char)
  | none, [] => some []
  | some _, [] => none
  | none, c :: rest =>
    if c = '&' then decodeFrom table (some [c]) rest
    else (decodeFrom table none rest).map (c :: ·)
  | some entity, c :: rest =>
    if c = ';' then
      match table.charOf? (entity ++ [c]) with
      | some d => (decodeFrom table none rest).map (d :: ·)
      | none => none
    else decodeFrom table (some (entity ++ [c])) rest

def decode (table : EntityTable) (text : List Char) : Option (List Char) :=
  table.decodeFrom none text

theorem decode_cons {c : Char} (h : c ≠ '&') (table : EntityTable) (rest : List Char) :
    table.decode (c :: rest) = (table.decode rest).map (c :: ·) := by
  simp only [decode, decodeFrom, if_neg h]

/-- A table reads another if it knows the character of every entity that the other one writes, and
the other one writes no ampersand for itself. -/
def Reads (table written : EntityTable) : Prop :=
  (∃ entity, ('&', entity) ∈ written) ∧
    ∀ p ∈ written, ∀ rest, table.decode (p.2.toList ++ rest) = (table.decode rest).map (p.1 :: ·)

theorem encodeChar_of_lookup {written : EntityTable} {c : Char} {entity : String}
    (h : written.lookup c = some entity) : written.encodeChar c = entity.toList := by
  simp only [encodeChar, h]

theorem encodeChar_of_not_lookup {written : EntityTable} {c : Char} (h : written.lookup c = none) :
    written.encodeChar c = [c] := by
  simp only [encodeChar, h]

theorem mem_of_lookup {written : EntityTable} {c : Char} {entity : String}
    (h : written.lookup c = some entity) : (c, entity) ∈ written := by
  obtain ⟨l₁, l₂, rfl, -⟩ := List.lookup_eq_some_iff.mp h
  simp

theorem ne_of_not_lookup {written : EntityTable} {c d : Char} {entity : String}
    (h : written.lookup c = none) (hd : (d, entity) ∈ written) : c ≠ d := by
  rintro rfl
  simpa using List.lookup_eq_none_iff.mp h _ hd

theorem decode_encodeChar {table written : EntityTable} (h : table.Reads written) (c : Char)
    (rest : List Char) :
    table.decode (written.encodeChar c ++ rest) = (table.decode rest).map (c :: ·) := by
  obtain ⟨⟨amp, hamp⟩, hread⟩ := h
  cases hc : written.lookup c with
  | some entity => rw [encodeChar_of_lookup hc]; exact hread _ (mem_of_lookup hc) rest
  | none =>
    rw [encodeChar_of_not_lookup hc]
    exact decode_cons (ne_of_not_lookup hc hamp) table rest

/-- What is written with a table is read back by every table that reads it. -/
theorem decode_encode {table written : EntityTable} (h : table.Reads written) (text : List Char) :
    table.decode (written.encode text) = some text := by
  induction text with
  | nil => rfl
  | cons c rest ih => rw [encode_cons, decode_encodeChar h, ih]; rfl

theorem reads_quotedValue : bracedContent.Reads quotedValue := by
  refine ⟨⟨_, .head _⟩, fun p hp rest => ?_⟩
  simp only [quotedValue, List.mem_cons, List.not_mem_nil, or_false] at hp
  rcases hp with rfl | rfl <;> rfl

theorem reads_bracedContent : bracedContent.Reads bracedContent := by
  refine ⟨⟨_, .head _⟩, fun p hp rest => ?_⟩
  simp only [bracedContent, content, List.cons_append, List.nil_append, List.mem_cons,
    List.not_mem_nil, or_false] at hp
  rcases hp with rfl | rfl | rfl | rfl | rfl | rfl | rfl <;> rfl

theorem reads_content : bracedContent.Reads content :=
  ⟨⟨_, .head _⟩, fun p hp => reads_bracedContent.2 p (List.mem_append_left _ hp)⟩

theorem not_mem_encode {written : EntityTable} {c : Char} {entity : String}
    (hc : (c, entity) ∈ written) (h : ∀ p ∈ written, c ∉ p.2.toList) (text : List Char) :
    c ∉ written.encode text := by
  simp only [encode, List.mem_flatMap, not_exists, not_and]
  intro d _
  cases hd : written.lookup d with
  | some e => rw [encodeChar_of_lookup hd]; exact h _ (mem_of_lookup hd)
  | none =>
    rw [encodeChar_of_not_lookup hd, List.mem_singleton]
    exact (ne_of_not_lookup hd hc).symm

theorem encode_of_not_mem {written : EntityTable} {text : List Char}
    (h : ∀ p ∈ written, p.1 ∉ text) : written.encode text = text := by
  induction text with
  | nil => rfl
  | cons c rest ih =>
    have hlookup : written.lookup c = none := by
      rw [List.lookup_eq_none_iff]
      intro p hp
      have hne : c ≠ p.1 := by
        rintro rfl
        exact h p hp (.head _)
      simpa using hne
    rw [encode_cons, encodeChar_of_not_lookup hlookup,
      ih fun p hp hmem => h p hp (.tail _ hmem), List.singleton_append]

theorem not_mem_encode_of_not_mem {written : EntityTable} {c : Char}
    (h : ∀ p ∈ written, c ∉ p.2.toList) {text : List Char} (hc : c ∉ text) :
    c ∉ written.encode text := by
  simp only [encode, List.mem_flatMap, not_exists, not_and]
  intro d hd
  cases hlookup : written.lookup d with
  | some e => rw [encodeChar_of_lookup hlookup]; exact h _ (mem_of_lookup hlookup)
  | none =>
    rw [encodeChar_of_not_lookup hlookup, List.mem_singleton]
    rintro rfl
    exact hc hd

end SceneMarkup.EntityTable
