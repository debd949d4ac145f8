import SceneMarkup.Proofs.Json.Quoting
import SceneMarkup.Proofs.Json.Shown

/-!
# Scanning what was written

A scan with a written value before it goes over it and on, with an outline that shows the value
(`scansTo_compact`). What a number in it is read as is left to its text (`ScannedAs`).
-/

namespace SceneMarkup.Json

open Value (quotedChar quote compactItems compactMembers)
open Outline (Shows ShowsItems ShowsMembers)

/-- A number is read as what its text spells. -/
def ScannedAs (w : Value) (r : Except Error Value) : Prop :=
  ∃ (t : NumberText) (stop : Position), t.Spelled w.compact.toList ∧ r = t.value stop

def Writable (w : Value) : Prop := ∃ t : NumberText, t.Spelled w.compact.toList

def EndsValue (rest : List Char) : Prop := ∀ c ∈ rest.head?, c = ',' ∨ c = ']' ∨ c = '\x7d'

theorem EndsValue.endsNumber {rest : List Char} (h : EndsValue rest) : EndsNumber rest := by
  intro c hc
  rcases h c hc with rfl | rfl | rfl <;> decide

theorem skipSpace_cons {d : Char} (h : Cursor.isSpace d = false) (p : Position) (rest : List Char) :
    Cursor.skipSpace ⟨p, d :: rest⟩ = ⟨p, d :: rest⟩ := by
  simp [Cursor.skipSpace, h, Position.pastAll]

/-- A text that a scan can take for the beginning of a value, and not for the end of a list. -/
def BeginsValue (text : List Char) : Prop :=
  ∃ d rest, text = d :: rest ∧ Cursor.isSpace d = false ∧ d ≠ ']'

theorem BeginsValue.append {text : List Char} (h : BeginsValue text) (rest : List Char) :
    BeginsValue (text ++ rest) := by
  obtain ⟨d, tail, rfl, hd⟩ := h
  exact ⟨d, tail ++ rest, rfl, hd⟩

/-! ## How far a scan comes -/

/-- A scan comes to the rest of a text, with an outline as wanted and fuel enough to go on. -/
def Arrives (scanned : Outline × Cursor) (stack : List Open) (rest : List Char)
    (P : Outline → Prop) : Prop :=
  ∃ fuel o q, 2 * rest.length + 2 ≤ fuel ∧ P o ∧ scanned = scan fuel (.after o) stack ⟨q, rest⟩

/-- A scan goes over a text and has an outline as wanted then. -/
def ScansTo (text : List Char) (P : Outline → Prop) : Prop :=
  ∀ fuel stack p rest, EndsValue rest → 2 * (text ++ rest).length + 1 ≤ fuel →
    Arrives (scan fuel .value stack ⟨p, text ++ rest⟩) stack rest P

theorem Arrives.bind {scanned : Outline × Cursor} {stack stack' : List Open}
    {rest rest' : List Char} {P P' : Outline → Prop} (h : Arrives scanned stack rest P)
    (hnext : ∀ fuel o q, 2 * rest.length + 2 ≤ fuel → P o →
      Arrives (scan fuel (.after o) stack ⟨q, rest⟩) stack' rest' P') :
    Arrives scanned stack' rest' P' := by
  obtain ⟨fuel, o, q, hfuel, ho, rfl⟩ := h
  exact hnext fuel o q hfuel ho

/-! ## Scalars -/

theorem exists_scanWord (word : List Char) (p : Position) (rest : List Char) :
    ∃ q, scanWord ⟨p, word ++ rest⟩ word = .ok ⟨q, rest⟩ := by
  induction word generalizing p with
  | nil => exact ⟨p, rfl⟩
  | cons w word ih =>
    rw [List.cons_append, scanWord]
    simp only [if_true]
    exact ih (p.past w)

theorem scansTo_of_scalar {text : List Char} {P : Outline → Prop} {d : Char} {tail : List Char}
    (htext : text = d :: tail) (hspace : Cursor.isSpace d = false) (hlist : d ≠ '[')
    (hobject : d ≠ '\x7b')
    (hscalar : ∀ fuel p rest, EndsValue rest → (text ++ rest).length ≤ fuel →
      ∃ o q, P o ∧ scanScalar fuel ⟨p, text ++ rest⟩ = .ok (o, ⟨q, rest⟩)) :
    ScansTo text P := by
  intro fuel stack p rest hrest hfuel
  have hlength : (text ++ rest).length = tail.length + rest.length + 1 := by
    rw [htext, List.length_append, List.length_cons]
    omega
  obtain ⟨n, rfl⟩ : ∃ n, fuel = n + 1 := ⟨fuel - 1, by omega⟩
  obtain ⟨o, q, ho, hscan⟩ := hscalar n p rest hrest (by omega)
  refine ⟨n, o, q, by omega, ho, ?_⟩
  rw [htext, List.cons_append] at hscan ⊢
  rw [scan]
  simp only [skipSpace_cons hspace]
  split
  · rename_i heq
    exact absurd (List.cons.inj heq).1 hlist
  · rename_i heq
    exact absurd (List.cons.inj heq).1 hobject
  · rw [hscan]

theorem scansTo_null : ScansTo "null".toList (Shows ScannedAs · .null) := by
  refine scansTo_of_scalar rfl (by decide) (by decide) (by decide) fun fuel p rest _ _ => ?_
  obtain ⟨q, hword⟩ := exists_scanWord ['n', 'u', 'l', 'l'] p rest
  simp only [List.cons_append, List.nil_append] at hword
  exact ⟨.null p q, q, .null _ _, by simp [scanScalar, hword]⟩

theorem scansTo_bool (b : Bool) :
    ScansTo (if b then "true" else "false").toList (Shows ScannedAs · (.bool b)) := by
  cases b with
  | true =>
    refine scansTo_of_scalar rfl (by decide) (by decide) (by decide) fun fuel p rest _ _ => ?_
    obtain ⟨q, hword⟩ := exists_scanWord ['t', 'r', 'u', 'e'] p rest
    simp only [List.cons_append, List.nil_append] at hword
    exact ⟨.bool p q true, q, .bool _ _ _, by simp [scanScalar, hword]⟩
  | false =>
    refine scansTo_of_scalar rfl (by decide) (by decide) (by decide) fun fuel p rest _ _ => ?_
    obtain ⟨q, hword⟩ := exists_scanWord ['f', 'a', 'l', 's', 'e'] p rest
    simp only [List.cons_append, List.nil_append] at hword
    exact ⟨.bool p q false, q, .bool _ _ _, by simp [scanScalar, hword]⟩

theorem toList_quote (s : String) :
    (quote s).toList = '"' :: (s.toList.flatMap quotedChar ++ ['"']) := by
  rw [quote, String.toList_ofList, List.cons_append]

theorem length_le_flatMap_quotedChar (s : List Char) : s.length ≤ (s.flatMap quotedChar).length := by
  induction s with
  | nil => exact Nat.le_refl 0
  | cons c s ih =>
    have hpos : 0 < (quotedChar c).length := by
      unfold quotedChar
      split <;> simp [Nat.pos_iff_ne_zero]
      split <;> simp
    rw [List.flatMap_cons, List.length_append, List.length_cons]
    omega

theorem scansTo_string (s : String) : ScansTo (quote s).toList (Shows ScannedAs · (.string s)) := by
  rw [toList_quote]
  refine scansTo_of_scalar rfl (by decide) (by decide) (by decide) fun fuel p rest _ hfuel => ?_
  have hlong := length_le_flatMap_quotedChar s.toList
  simp only [List.cons_append, List.append_assoc, List.length_append, List.length_cons] at hfuel ⊢
  obtain ⟨skimmed, q, q', hskim, hread⟩ :=
    exists_scanString_quoted s (show s.toList.length < fuel by omega) p.next rest
  refine ⟨.string p q (.ok s), q, .string _ _ _, ?_⟩
  simp [scanScalar, hskim, hread, Except.map]

theorem ne_of_beginsNumber {d c : Char} (hd : d = '-' ∨ d.isDigit = true) (hc : c ≠ '-')
    (hdigit : c.isDigit = false) : d ≠ c := by
  rintro rfl
  rcases hd with rfl | hd
  · exact hc rfl
  · rw [hd] at hdigit
    cases hdigit

theorem isSpace_of_beginsNumber {d : Char} (hd : d = '-' ∨ d.isDigit = true) :
    Cursor.isSpace d = false := by
  have hne {c : Char} := ne_of_beginsNumber (c := c) hd
  simp only [Cursor.isSpace, Bool.or_eq_false_iff, beq_eq_false_iff_ne]
  exact ⟨⟨⟨hne (by decide) (by decide), hne (by decide) (by decide)⟩,
    hne (by decide) (by decide)⟩, hne (by decide) (by decide)⟩

theorem scansTo_number {w : Value} (hw : Writable w)
    (hshows : ∀ p q r, ScannedAs w r → Shows ScannedAs (.number p q r) w) :
    ScansTo w.compact.toList (Shows ScannedAs · w) := by
  obtain ⟨t, ht⟩ := hw
  obtain ⟨d, tail, hcons, hd⟩ := ht.exists_eq_cons
  have hne {c : Char} := ne_of_beginsNumber (c := c) hd
  refine scansTo_of_scalar hcons (isSpace_of_beginsNumber hd) (hne (by decide) (by decide))
    (hne (by decide) (by decide)) fun fuel p rest hrest _ => ?_
  obtain ⟨q, hscan⟩ := exists_scanNumber_spelled ht hrest.endsNumber p
  refine ⟨.number p q (t.value q), q, hshows _ _ _ ⟨t, q, ht, rfl⟩, ?_⟩
  have hfirst : (d == '-' || d.isDigit) = true := by simpa using hd
  rw [hcons, List.cons_append] at hscan ⊢
  unfold scanScalar
  simp only
  split
  · rename_i heq
    cases heq
  · rename_i heq
    exact absurd (List.cons.inj heq).1 (hne (by decide) (by decide))
  · rename_i heq
    exact absurd (List.cons.inj heq).1 (hne (by decide) (by decide))
  · rename_i heq
    exact absurd (List.cons.inj heq).1 (hne (by decide) (by decide))
  · rename_i heq
    exact absurd (List.cons.inj heq).1 (hne (by decide) (by decide))
  · rename_i heq
    cases heq
    rw [if_pos hfirst, hscan]

/-! ## Containers -/

section

variable {stack : List Open} {rest : List Char}

theorem endsValue_separated {α : Type} (text : α → List Char) (items : List α) {close : Char}
    (hclose : close = ']' ∨ close = '\x7d') (rest : List Char) :
    EndsValue (items.flatMap (fun a => ',' :: text a) ++ close :: rest) := by
  cases items with
  | nil => rintro c ⟨⟩; exact .inr hclose
  | cons a items => rintro c ⟨⟩; exact .inl rfl

theorem scan_closeList (n : Nat) (o : Outline) (start : Position) (done : List Outline)
    (q : Position) :
    scan (n + 1) (.after o) (.list start done :: stack) ⟨q, ']' :: rest⟩ =
      scan n (.after (.array start (o :: done).reverse (.closed q.next))) stack ⟨q.next, rest⟩ :=
  rfl

theorem scan_nextItem (n : Nat) (o : Outline) (start : Position) (done : List Outline)
    (q : Position) (h : BeginsValue rest) :
    scan (n + 1) (.after o) (.list start done :: stack) ⟨q, ',' :: rest⟩ =
      scan n .value (.list start (o :: done) :: stack) ⟨q.next, rest⟩ := by
  obtain ⟨d, tail, rfl, hspace, hd⟩ := h
  rw [scan]
  simp only [skipSpace_cons (show Cursor.isSpace ',' = false by decide), skipSpace_cons hspace]
  split
  · rename_i heq
    cases heq
  · rename_i heq
    exact absurd (List.cons.inj heq).1 hd
  · rfl

theorem scan_firstItem (n : Nat) (p : Position) (h : BeginsValue rest) :
    scan (n + 1) .value stack ⟨p, '[' :: rest⟩ =
      scan n .value (.list p [] :: stack) ⟨p.next, rest⟩ := by
  obtain ⟨d, tail, rfl, hspace, hd⟩ := h
  rw [scan]
  simp only [skipSpace_cons (show Cursor.isSpace '[' = false by decide), skipSpace_cons hspace]
  split
  · rename_i heq
    exact absurd (List.cons.inj heq).1 hd
  · rename_i heq
    cases heq
  · rfl

/-- The items that are still to come, with the commas before them. -/
theorem arrives_items {start : Position} {vs : List Value}
    (hscan : ∀ v ∈ vs, ScansTo v.compact.toList (Shows ScannedAs · v))
    (hbegins : ∀ v ∈ vs, BeginsValue v.compact.toList) (o : Outline) (done : List Outline)
    {fuel : Nat} (q : Position)
    (hfuel : 2 * (vs.flatMap (fun v => ',' :: v.compact.toList) ++ ']' :: rest).length + 2 ≤ fuel) :
    Arrives (scan fuel (.after o) (.list start done :: stack)
        ⟨q, vs.flatMap (fun v => ',' :: v.compact.toList) ++ ']' :: rest⟩) stack rest fun a =>
      ∃ os stop, a = .array start ((o :: done).reverse ++ os) (.closed stop) ∧
        ShowsItems ScannedAs os vs := by
  induction vs generalizing o done fuel q with
  | nil =>
    simp only [List.flatMap_nil, List.nil_append, List.length_cons] at hfuel
    obtain ⟨n, rfl⟩ : ∃ n, fuel = n + 1 := ⟨fuel - 1, by omega⟩
    rw [List.flatMap_nil, List.nil_append, scan_closeList]
    refine ⟨n, _, q.next, by omega, ⟨[], q.next, ?_, .nil⟩, rfl⟩
    rw [List.append_nil]
  | cons v vs ih =>
    obtain ⟨hv, hvs⟩ := List.forall_mem_cons.mp hscan
    obtain ⟨hvbegins, hvsbegins⟩ := List.forall_mem_cons.mp hbegins
    simp only [List.flatMap_cons, List.cons_append, List.append_assoc, List.length_cons] at hfuel ⊢
    obtain ⟨n, rfl⟩ : ∃ n, fuel = n + 1 := ⟨fuel - 1, by omega⟩
    rw [scan_nextItem n o start done q (hvbegins.append _)]
    have hends := endsValue_separated (fun v => v.compact.toList) vs (.inl rfl) rest
    refine (hv n _ q.next _ hends (by omega)).bind fun fuel' o' q' hfuel' ho' => ?_
    refine (ih hvs hvsbegins o' (o :: done) q' hfuel').bind ?_
    rintro fuel'' a q'' hfuel'' ⟨os, stop, rfl, hos⟩
    refine ⟨fuel'', _, q'', hfuel'', ⟨o' :: os, stop, ?_, .cons ho' hos⟩, rfl⟩
    simp

theorem toList_compactItems (v : Value) (vs : List Value) :
    (compactItems (v :: vs)).toList =
      v.compact.toList ++ vs.flatMap fun w => ',' :: w.compact.toList := by
  induction vs generalizing v with
  | nil => rw [compactItems, List.flatMap_nil, List.append_nil]
  | cons w vs ih =>
    rw [compactItems, String.toList_append, String.toList_append, ih, List.flatMap_cons]
    · simp
    · exact List.cons_ne_nil w vs

theorem scansTo_array {items : List Value}
    (hscan : ∀ v ∈ items, ScansTo v.compact.toList (Shows ScannedAs · v))
    (hbegins : ∀ v ∈ items, BeginsValue v.compact.toList) :
    ScansTo (Value.array items).compact.toList (Shows ScannedAs · (.array items)) := by
  intro fuel stack p rest hrest hfuel
  have htext : (Value.array items).compact.toList = '[' :: ((compactItems items).toList ++ [']']) := by
    rw [Value.compact, String.toList_append, String.toList_append]
    rfl
  rw [htext] at hfuel ⊢
  simp only [List.cons_append, List.append_assoc, List.nil_append, List.length_cons] at hfuel ⊢
  obtain ⟨n, rfl⟩ : ∃ n, fuel = n + 1 := ⟨fuel - 1, by omega⟩
  cases items with
  | nil =>
    simp only [compactItems, String.toList_empty, List.nil_append, List.length_cons] at hfuel ⊢
    exact ⟨n, _, p.next.next, by omega, .array p p.next.next .nil, rfl⟩
  | cons v vs =>
    obtain ⟨hv, hvs⟩ := List.forall_mem_cons.mp hscan
    obtain ⟨hvbegins, hvsbegins⟩ := List.forall_mem_cons.mp hbegins
    rw [toList_compactItems, List.append_assoc] at hfuel ⊢
    rw [scan_firstItem n p (hvbegins.append _)]
    have hends := endsValue_separated (fun v => v.compact.toList) vs (.inl rfl) rest
    refine (hv n _ p.next _ hends (by omega)).bind fun fuel' o q hfuel' ho => ?_
    refine (arrives_items hvs hvsbegins o [] q hfuel').bind ?_
    rintro fuel'' a q' hfuel'' ⟨os, stop, rfl, hos⟩
    exact ⟨fuel'', _, q', hfuel'', .array p stop (.cons ho hos), rfl⟩

/-! ## Objects -/

def memberText (m : String × Value) : List Char := (quote m.1).toList ++ ':' :: m.2.compact.toList

theorem toList_compactMembers (m : String × Value) (ms : List (String × Value)) :
    (compactMembers (m :: ms)).toList = memberText m ++ ms.flatMap fun m => ',' :: memberText m := by
  induction ms generalizing m with
  | nil =>
    simp [compactMembers, memberText]
  | cons m' ms ih =>
    rw [compactMembers, String.toList_append, ih, List.flatMap_cons]
    · simp [memberText]
    · exact List.cons_ne_nil m' ms

theorem exists_scanKey_quote (k : String) {fuel : Nat} (hfuel : k.toList.length < fuel)
    (afterComma : Bool) (p : Position) (rest : List Char) :
    ∃ key q, key.text = .ok k ∧
      scanKey fuel afterComma ⟨p, (quote k).toList ++ ':' :: rest⟩ = .ok (key, ⟨q, rest⟩) := by
  obtain ⟨skimmed, q, q', hskim, hread⟩ := exists_scanString_quoted k hfuel p.next (':' :: rest)
  rw [toList_quote]
  simp only [List.cons_append, List.append_assoc, List.nil_append, scanKey, hskim, hread,
    skipSpace_cons (show Cursor.isSpace ':' = false by decide)]
  exact ⟨_, q.next, rfl, rfl⟩

theorem scan_closeObject (n : Nat) (o : Outline) (start : Position)
    (done : List (Key × Outline × Position)) (key : Key) (q : Position) :
    scan (n + 1) (.after o) (.object start done key :: stack) ⟨q, '\x7d' :: rest⟩ =
      scan n (.after (.object start ((key, o, q) :: done).reverse (.closed q.next))) stack
        ⟨q.next, rest⟩ :=
  rfl

theorem scan_nextMember (n : Nat) (o : Outline) (start : Position)
    (done : List (Key × Outline × Position)) (key : Key) (q : Position) {k : String} {key' : Key}
    {c : Cursor} (h : scanKey n true ⟨q.next, (quote k).toList ++ rest⟩ = .ok (key', c)) :
    scan (n + 1) (.after o) (.object start done key :: stack) ⟨q, ',' :: ((quote k).toList ++ rest)⟩ =
      scan n .value (.object start ((key, o, q) :: done) key' :: stack) c := by
  rw [toList_quote, List.cons_append] at h ⊢
  rw [scan]
  simp only [skipSpace_cons (show Cursor.isSpace ',' = false by decide),
    skipSpace_cons (show Cursor.isSpace '"' = false by decide), h]

theorem scan_firstMember (n : Nat) (p : Position) {k : String} {key : Key} {c : Cursor}
    (h : scanKey n false ⟨p.next, (quote k).toList ++ rest⟩ = .ok (key, c)) :
    scan (n + 1) .value stack ⟨p, '\x7b' :: ((quote k).toList ++ rest)⟩ =
      scan n .value (.object p [] key :: stack) c := by
  rw [toList_quote, List.cons_append] at h ⊢
  rw [scan]
  simp only [skipSpace_cons (show Cursor.isSpace '\x7b' = false by decide),
    skipSpace_cons (show Cursor.isSpace '"' = false by decide), h]

theorem length_lt_quote (k : String) : k.toList.length < (quote k).toList.length := by
  have hlong := length_le_flatMap_quotedChar k.toList
  rw [toList_quote, List.length_cons, List.length_append]
  omega

theorem arrives_members {start : Position} {ms : List (String × Value)}
    (hscan : ∀ m ∈ ms, ScansTo m.2.compact.toList (Shows ScannedAs · m.2)) (o : Outline)
    (done : List (Key × Outline × Position)) (key : Key) {fuel : Nat} (q : Position)
    (hfuel : 2 * (ms.flatMap (fun m => ',' :: memberText m) ++ '\x7d' :: rest).length + 2 ≤ fuel) :
    Arrives (scan fuel (.after o) (.object start done key :: stack)
        ⟨q, ms.flatMap (fun m => ',' :: memberText m) ++ '\x7d' :: rest⟩) stack rest fun a =>
      ∃ members stop, a = .object start (((key, o, q) :: done).reverse ++ members) (.closed stop) ∧
        ShowsMembers ScannedAs members ms := by
  induction ms generalizing o done key fuel q with
  | nil =>
    simp only [List.flatMap_nil, List.nil_append, List.length_cons] at hfuel
    obtain ⟨n, rfl⟩ : ∃ n, fuel = n + 1 := ⟨fuel - 1, by omega⟩
    rw [List.flatMap_nil, List.nil_append, scan_closeObject]
    refine ⟨n, _, q.next, by omega, ⟨[], q.next, ?_, .nil⟩, rfl⟩
    rw [List.append_nil]
  | cons m ms ih =>
    obtain ⟨hm, hms⟩ := List.forall_mem_cons.mp hscan
    have hlong := length_lt_quote m.1
    have hends := endsValue_separated memberText ms (.inr rfl) rest
    generalize hnext : ms.flatMap (fun m => ',' :: memberText m) ++ '\x7d' :: rest = next at *
    have htext : (m :: ms).flatMap (fun m => ',' :: memberText m) ++ '\x7d' :: rest =
        ',' :: ((quote m.1).toList ++ ':' :: (m.2.compact.toList ++ next)) := by
      rw [← hnext]
      simp [memberText]
    rw [htext] at hfuel ⊢
    simp only [List.length_cons, List.length_append] at hfuel
    obtain ⟨n, rfl⟩ : ∃ n, fuel = n + 1 := ⟨fuel - 1, by omega⟩
    obtain ⟨key', p, hkey', hscanKey⟩ := exists_scanKey_quote m.1 (show m.1.toList.length < n by omega)
      true q.next (m.2.compact.toList ++ next)
    rw [scan_nextMember n o start done key q hscanKey]
    refine (hm n _ p _ hends (by rw [List.length_append]; omega)).bind fun fuel' o' q' hfuel' ho' => ?_
    refine (ih hms o' ((key, o, q) :: done) key' q' hfuel').bind ?_
    rintro fuel'' a q'' hfuel'' ⟨members, stop, rfl, hmembers⟩
    refine ⟨fuel'', _, q'', hfuel'',
      ⟨(key', o', q') :: members, stop, ?_, .cons hkey' q' ho' hmembers⟩, rfl⟩
    simp

theorem scansTo_object {members : List (String × Value)}
    (hscan : ∀ m ∈ members, ScansTo m.2.compact.toList (Shows ScannedAs · m.2)) :
    ScansTo (Value.object members).compact.toList (Shows ScannedAs · (.object members)) := by
  intro fuel stack p rest hrest hfuel
  have htext : (Value.object members).compact.toList =
      '\x7b' :: ((compactMembers members).toList ++ ['\x7d']) := by
    rw [Value.compact, String.toList_append, String.toList_append]
    rfl
  rw [htext] at hfuel ⊢
  simp only [List.cons_append, List.append_assoc, List.nil_append, List.length_cons] at hfuel ⊢
  obtain ⟨n, rfl⟩ : ∃ n, fuel = n + 1 := ⟨fuel - 1, by omega⟩
  cases members with
  | nil =>
    simp only [compactMembers, String.toList_empty, List.nil_append, List.length_cons] at hfuel ⊢
    exact ⟨n, _, p.next.next, by omega, .object p p.next.next .nil, rfl⟩
  | cons m ms =>
    obtain ⟨hm, hms⟩ := List.forall_mem_cons.mp hscan
    have hlong := length_lt_quote m.1
    have hends := endsValue_separated memberText ms (.inr rfl) rest
    rw [toList_compactMembers, List.append_assoc] at hfuel ⊢
    generalize hnext : ms.flatMap (fun m => ',' :: memberText m) ++ '\x7d' :: rest = next at *
    simp only [memberText, List.append_assoc, List.cons_append, List.length_append,
      List.length_cons] at hfuel ⊢
    obtain ⟨key, q, hkey, hscanKey⟩ := exists_scanKey_quote m.1 (show m.1.toList.length < n by omega)
      false p.next (m.2.compact.toList ++ next)
    rw [scan_firstMember n p hscanKey]
    refine (hm n _ q _ hends (by rw [List.length_append]; omega)).bind fun fuel' o q' hfuel' ho => ?_
    rw [← hnext] at hfuel' ⊢
    refine (arrives_members hms o [] key q' hfuel').bind ?_
    rintro fuel'' a q'' hfuel'' ⟨members, stop, rfl, hmembers⟩
    exact ⟨fuel'', _, q'', hfuel'', .object p stop (.cons hkey q' ho hmembers), rfl⟩

end

/-! ## Values -/

theorem writable_integer (n : Int) : Writable (.integer n) :=
  ⟨.ofInt n, by rw [Value.compact]; exact spelled_int n⟩

theorem writable_float {x : Float} (hx : x.isFinite = true) : Writable (.float x) := by
  obtain ⟨t, ht⟩ := exists_spelled_float hx
  exact ⟨t, by rwa [Value.compact]⟩

theorem Writable.beginsValue {w : Value} (h : Writable w) : BeginsValue w.compact.toList := by
  obtain ⟨t, ht⟩ := h
  obtain ⟨d, tail, hcons, hd⟩ := ht.exists_eq_cons
  exact ⟨d, tail, hcons, isSpace_of_beginsNumber hd,
    ne_of_beginsNumber hd (by decide) (by decide)⟩

theorem beginsValue_compact {b : Budget} {v : Value} (hv : v.Fits b) :
    BeginsValue v.compact.toList := by
  cases hv with
  | null => exact ⟨'n', _, rfl, by decide, by decide⟩
  | bool c => cases c <;> exact ⟨_, _, rfl, by decide, by decide⟩
  | integer hn => exact (writable_integer _).beginsValue
  | float hx => exact (writable_float hx).beginsValue
  | string s => exact ⟨'"', _, toList_quote s, by decide, by decide⟩
  | array henter hitems =>
    rw [Value.compact, String.toList_append, String.toList_append]
    exact ⟨'[', _, rfl, by decide, by decide⟩
  | object henter hkeys hmembers =>
    rw [Value.compact, String.toList_append, String.toList_append]
    exact ⟨'\x7b', _, rfl, by decide, by decide⟩

/-- **A written value is scanned as an outline that shows it.** -/
theorem scansTo_compact {b : Budget} {v : Value} (hv : v.Fits b) :
    ScansTo v.compact.toList (Shows ScannedAs · v) := by
  induction hv with
  | null => exact scansTo_null
  | bool c => exact scansTo_bool c
  | integer hn => exact scansTo_number (writable_integer _) fun p q r hr => .integer p q hr
  | float hx => exact scansTo_number (writable_float hx) fun p q r hr => .float p q hr
  | string s => exact scansTo_string s
  | array _ hitems ih => exact scansTo_array ih fun v hv => beginsValue_compact (hitems v hv)
  | object _ _ _ ih => exact scansTo_object ih

end SceneMarkup.Json
