import SceneMarkup.Proofs.Text.Entities

/-!
# Reading character references

`EntityTable.resolve` replaces the character references in a text, as readers of pages do: what
begins with an ampersand and is no reference stands as it is. A table that resolves the entities of
another (`Resolves`) gives back what the other one wrote (`resolve_encode`).
-/

namespace SceneMarkup.EntityTable

/-- Resolves a text after the beginning of a reference, if one has begun. -/
def resolveFrom (table : EntityTable) : Option (List Char) → List Char → List Char
  | none, [] => []
  | some begun, [] => begun
  | none, c :: rest =>
    if c = '&' then resolveFrom table (some [c]) rest else c :: resolveFrom table none rest
  | some begun, c :: rest =>
    if c = ';' then
      match table.charOf? (begun ++ [c]) with
      | some d => d :: resolveFrom table none rest
      | none => begun ++ c :: resolveFrom table none rest
    else if c = '&' then begun ++ resolveFrom table (some [c]) rest
    else resolveFrom table (some (begun ++ [c])) rest

def resolve (table : EntityTable) (text : List Char) : List Char := table.resolveFrom none text

/-- The references that are ever written: the entities of all flavors, and the one of the zero-width
space. -/
def references : EntityTable := bracedContent ++ [('\u200B', "&#8203;")]

theorem resolve_cons {c : Char} (h : c ≠ '&') (table : EntityTable) (rest : List Char) :
    table.resolve (c :: rest) = c :: table.resolve rest := by
  simp only [resolve, resolveFrom, if_neg h]

theorem resolve_of_not_mem (table : EntityTable) {text : List Char} (h : '&' ∉ text) :
    table.resolve text = text := by
  induction text with
  | nil => rfl
  | cons c rest ih =>
    obtain ⟨hc, hrest⟩ := List.ne_and_not_mem_of_not_mem_cons h
    rw [resolve_cons hc.symm, ih hrest]

theorem resolveFrom_some_ne_nil (table : EntityTable) {begun : List Char} (h : begun ≠ [])
    (text : List Char) : table.resolveFrom (some begun) text ≠ [] := by
  induction text generalizing begun with
  | nil => exact h
  | cons c rest ih =>
    rw [resolveFrom]
    split
    · split
      · exact List.cons_ne_nil _ _
      · exact List.append_ne_nil_of_left_ne_nil h _
    · split
      · exact List.append_ne_nil_of_left_ne_nil h _
      · exact ih (List.append_ne_nil_of_left_ne_nil h _)

theorem resolve_ne_nil (table : EntityTable) {text : List Char} (h : text ≠ []) :
    table.resolve text ≠ [] := by
  obtain ⟨c, rest, rfl⟩ := List.exists_cons_of_ne_nil h
  rw [resolve, resolveFrom]
  split
  · exact table.resolveFrom_some_ne_nil (List.cons_ne_nil _ _) rest
  · exact List.cons_ne_nil _ _

/-- A table resolves another if it knows the character of every entity that the other one writes, and
the other one writes no ampersand for itself. -/
def Resolves (table written : EntityTable) : Prop :=
  (∃ entity, ('&', entity) ∈ written) ∧
    ∀ p ∈ written, ∀ rest, table.resolve (p.2.toList ++ rest) = p.1 :: table.resolve rest

theorem resolve_encodeChar {table written : EntityTable} (h : table.Resolves written) (c : Char)
    (rest : List Char) :
    table.resolve (written.encodeChar c ++ rest) = c :: table.resolve rest := by
  obtain ⟨⟨amp, hamp⟩, hresolve⟩ := h
  cases hc : written.lookup c with
  | some entity =>
    rw [encodeChar_of_lookup hc]
    exact hresolve _ (mem_of_lookup hc) rest
  | none =>
    rw [encodeChar_of_not_lookup hc]
    exact resolve_cons (ne_of_not_lookup hc hamp) table rest

theorem resolve_encode {table written : EntityTable} (h : table.Resolves written)
    (text : List Char) : table.resolve (written.encode text) = text := by
  induction text with
  | nil => rfl
  | cons c rest ih => rw [encode_cons, resolve_encodeChar h, ih]

theorem resolves_bracedContent : references.Resolves bracedContent := by
  refine ⟨⟨_, .head _⟩, fun p hp rest => ?_⟩
  simp only [bracedContent, content, List.cons_append, List.nil_append, List.mem_cons,
    List.not_mem_nil, or_false] at hp
  rcases hp with rfl | rfl | rfl | rfl | rfl | rfl | rfl <;> rfl

theorem resolves_content : references.Resolves content :=
  ⟨⟨_, .head _⟩, fun p hp => resolves_bracedContent.2 p (List.mem_append_left _ hp)⟩

theorem resolves_quotedValue : references.Resolves quotedValue := by
  have hsubset : ∀ p ∈ quotedValue, p ∈ bracedContent := by decide
  exact ⟨⟨_, .head _⟩, fun p hp => resolves_bracedContent.2 p (hsubset p hp)⟩

end SceneMarkup.EntityTable
