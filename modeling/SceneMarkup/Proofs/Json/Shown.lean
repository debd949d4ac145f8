import SceneMarkup.Proofs.Json.DistinctKeys
import SceneMarkup.Proofs.Json.NumberTexts
import SceneMarkup.Proofs.Json.Records

/-!
# Outlines that show a value

An outline shows a value if it is the value with positions, all containers closed; what its numbers
are read as is left open (`Outline.Shows`). A value that fits into a budget (`Value.Fits`) is read
from such an outline just if its numbers are read as themselves (`Outline.value_eq_ok_iff`).
-/

namespace SceneMarkup.Json

/-! ## Values -/

/-- A value that a text can hold within a budget: its integers fit, its floats are finite, keys are
distinct, and no more containers are open at once than may be. -/
inductive Value.Fits : Budget → Value → Prop where
  | null {b : Budget} : Fits b .null
  | bool {b : Budget} (c : Bool) : Fits b (.bool c)
  | integer {b : Budget} {n : Int} (hn : FitsWord n) : Fits b (.integer n)
  | float {b : Budget} {x : Float} (hx : x.isFinite = true) : Fits b (.float x)
  | string {b : Budget} (s : String) : Fits b (.string s)
  | array {b inner : Budget} {items : List Value} (henter : ∀ p, b.enter p = .ok inner)
      (hitems : ∀ v ∈ items, Fits inner v) : Fits b (.array items)
  | object {b inner : Budget} {members : List (String × Value)}
      (henter : ∀ p, b.enter p = .ok inner) (hkeys : DistinctKeys members)
      (hmembers : ∀ m ∈ members, Fits inner m.2) : Fits b (.object members)

theorem Value.Fits.unbounded {b : Budget} {v : Value} (h : v.Fits b) : v.Fits none := by
  have henter (p : Position) : Budget.enter none p = .ok none := rfl
  induction h with
  | null => exact .null
  | bool c => exact .bool c
  | integer hn => exact .integer hn
  | float hx => exact .float hx
  | string s => exact .string s
  | array _ _ ih => exact .array henter ih
  | object _ hkeys _ ih => exact .object henter hkeys ih

/-- A value is another one, or stands somewhere in it. -/
inductive Value.Within (w : Value) : Value → Prop where
  | self : Within w w
  | item {items : List Value} {v : Value} (hv : v ∈ items) (h : Within w v) :
      Within w (.array items)
  | member {members : List (String × Value)} {m : String × Value} (hm : m ∈ members)
      (h : Within w m.2) : Within w (.object members)

namespace Value

variable {w : Value} {P : Value → Prop}

theorem within_array_iff {items : List Value} :
    w.Within (.array items) ↔ w = .array items ∨ ∃ v ∈ items, w.Within v := by
  constructor
  · rintro (_ | ⟨hv, h⟩)
    · exact .inl rfl
    · exact .inr ⟨_, hv, h⟩
  · rintro (rfl | ⟨v, hv, h⟩)
    · exact .self
    · exact .item hv h

theorem within_object_iff {members : List (String × Value)} :
    w.Within (.object members) ↔ w = .object members ∨ ∃ m ∈ members, w.Within m.2 := by
  constructor
  · rintro (_ | _ | ⟨hm, h⟩)
    · exact .inl rfl
    · exact .inr ⟨_, hm, h⟩
  · rintro (rfl | ⟨m, hm, h⟩)
    · exact .self
    · exact .member hm h

def Numbers (P : Value → Prop) (v : Value) : Prop := ∀ w : Value, w.Within v → w.IsNumber → P w

theorem numbers_of_isNumber {v : Value} (hv : v.IsNumber) : v.Numbers P ↔ P v := by
  constructor
  · exact fun h => h v .self hv
  · intro h w hw _
    rcases hv with ⟨n, rfl⟩ | ⟨x, rfl⟩ <;> cases hw <;> exact h

theorem numbers_null : Value.null.Numbers P := by
  rintro w ⟨⟩ (⟨n, h⟩ | ⟨x, h⟩) <;> cases h

theorem numbers_bool (b : Bool) : (Value.bool b).Numbers P := by
  rintro w ⟨⟩ (⟨n, h⟩ | ⟨x, h⟩) <;> cases h

theorem numbers_string (s : String) : (Value.string s).Numbers P := by
  rintro w ⟨⟩ (⟨n, h⟩ | ⟨x, h⟩) <;> cases h

theorem numbers_array_iff {items : List Value} :
    (Value.array items).Numbers P ↔ ∀ v ∈ items, v.Numbers P := by
  constructor
  · exact fun h v hv w hw => h w (.item hv hw)
  · intro h w hw hnumber
    rcases within_array_iff.mp hw with rfl | ⟨v, hv, hw⟩
    · rcases hnumber with ⟨n, h⟩ | ⟨x, h⟩ <;> cases h
    · exact h v hv w hw hnumber

theorem numbers_object_iff {members : List (String × Value)} :
    (Value.object members).Numbers P ↔ ∀ m ∈ members, m.2.Numbers P := by
  constructor
  · exact fun h m hm w hw => h w (.member hm hw)
  · intro h w hw hnumber
    rcases within_object_iff.mp hw with rfl | ⟨m, hm, hw⟩
    · rcases hnumber with ⟨n, h⟩ | ⟨x, h⟩ <;> cases h
    · exact h m hm w hw hnumber

end Value

/-! ## Showing -/

mutual

/-- An outline shows a value, where `N` tells which numbers may be read as what. -/
inductive Outline.Shows (N : Value → Except Error Value → Prop) : Outline → Value → Prop where
  | null (p q : Position) : Shows N (.null p q) .null
  | bool (p q : Position) (b : Bool) : Shows N (.bool p q b) (.bool b)
  | integer (p q : Position) {n : Int} {r : Except Error Value} (h : N (.integer n) r) :
      Shows N (.number p q r) (.integer n)
  | float (p q : Position) {x : Float} {r : Except Error Value} (h : N (.float x) r) :
      Shows N (.number p q r) (.float x)
  | string (p q : Position) (s : String) : Shows N (.string p q (.ok s)) (.string s)
  | array (p q : Position) {os : List Outline} {vs : List Value} (h : Outline.ShowsItems N os vs) :
      Shows N (.array p os (.closed q)) (.array vs)
  | object (p q : Position) {members : List (Key × Outline × Position)}
      {ms : List (String × Value)} (h : Outline.ShowsMembers N members ms) :
      Shows N (.object p members (.closed q)) (.object ms)

inductive Outline.ShowsItems (N : Value → Except Error Value → Prop) :
    List Outline → List Value → Prop where
  | nil : ShowsItems N [] []
  | cons {o : Outline} {os : List Outline} {v : Value} {vs : List Value} (ho : Outline.Shows N o v)
      (hos : ShowsItems N os vs) : ShowsItems N (o :: os) (v :: vs)

inductive Outline.ShowsMembers (N : Value → Except Error Value → Prop) :
    List (Key × Outline × Position) → List (String × Value) → Prop where
  | nil : ShowsMembers N [] []
  | cons {key : Key} {o : Outline} {members : List (Key × Outline × Position)} {k : String}
      {v : Value} {ms : List (String × Value)} (hkey : key.text = .ok k) (p : Position)
      (ho : Outline.Shows N o v) (hmembers : ShowsMembers N members ms) :
      ShowsMembers N ((key, o, p) :: members) ((k, v) :: ms)

end

namespace Outline

variable {N : Value → Except Error Value → Prop} {Q : Value → Prop} {b : Budget}
  {members : List (Key × Outline × Position)} {ms : List (String × Value)}

theorem ShowsMembers.keys (h : ShowsMembers N members ms) :
    members.map (fun m => m.1.text) = ms.map fun m => .ok m.1 := by
  induction ms generalizing members with
  | nil => cases h; rfl
  | cons m rest ih =>
    cases h with
    | cons hkey p ho hmembers => rw [List.map_cons, List.map_cons, ih hmembers, hkey]

theorem ShowsMembers.items (h : ShowsMembers N members ms) :
    ShowsItems N (members.map fun m => m.2.1) (ms.map fun m => m.2) := by
  induction ms generalizing members with
  | nil => cases h; exact .nil
  | cons m rest ih =>
    cases h with
    | cons hkey p ho hmembers => exact .cons ho (ih hmembers)

/-! ## Reading -/

theorem length_of_values {os : List Outline} {vs : List Value} (h : values b os = .ok vs) :
    vs.length = os.length := by
  induction os generalizing vs with
  | nil => cases h; rfl
  | cons o rest ih =>
    unfold values at h
    obtain ⟨v, -, h⟩ := exists_of_bind_eq_ok h
    obtain ⟨ws, hws, h⟩ := exists_of_bind_eq_ok h
    cases h
    rw [List.length_cons, List.length_cons, ih hws]

theorem putMember_of_not_mem {α : Type} {k : String} {value : α} {done : List (String × α)}
    (h : k ∉ done.map Prod.fst) : putMember k value done = done ++ [(k, value)] := by
  induction done with
  | nil => rfl
  | cons m rest ih =>
    obtain ⟨l, v⟩ := m
    rw [List.map_cons, List.mem_cons, not_or] at h
    rw [putMember, if_neg (Ne.symm h.1), ih h.2, List.cons_append]

theorem memberValues_eq {ks : List String} {done : List (String × Value)}
    (hkeys : members.map (fun m => m.1.text) = ks.map .ok)
    (hdistinct : (done.map Prod.fst ++ ks).Nodup) :
    memberValues b done members =
      (values b (members.map fun m => m.2.1)).map fun vs => done ++ ks.zip vs := by
  induction members generalizing ks done with
  | nil =>
    obtain rfl : ks = [] := by simpa using hkeys.symm
    simp [memberValues, values, Except.map]
  | cons member rest ih =>
    obtain ⟨key, o, p⟩ := member
    cases ks with
    | nil => simp at hkeys
    | cons k ks =>
      obtain ⟨hkey, hrest⟩ : key.text = .ok k ∧ rest.map (fun m => m.1.text) = ks.map .ok := by
        simpa using hkeys
      have hnew : k ∉ done.map Prod.fst := fun hmem =>
        (List.nodup_append.mp hdistinct).2.2 k hmem k (.head _) rfl
      unfold memberValues
      rw [hkey, List.map_cons, values]
      cases hv : o.value b with
      | error e => rfl
      | ok v =>
        have hput : putMember k v done = done ++ [(k, v)] := putMember_of_not_mem hnew
        have hdistinct' : ((putMember k v done).map Prod.fst ++ ks).Nodup := by
          rw [hput]
          simpa using hdistinct
        refine (ih hrest hdistinct').trans ?_
        rw [hput]
        cases values b (rest.map fun m => m.2.1) with
        | error e => rfl
        | ok vs => simp [Except.map, bind, Except.bind, pure, Except.pure]

theorem ShowsItems.mapM_eq_ok_iff {α β : Type} {f : α → Value} {g : α → β}
    {read : Outline → Except Error β} {P : α → Prop} {as : List α} {os : List Outline}
    (h : ShowsItems N os (as.map f))
    (hread : ∀ a ∈ as, ∀ o : Outline, o.Shows N (f a) → (read o = .ok (g a) ↔ P a)) :
    os.mapM read = .ok (as.map g) ↔ ∀ a ∈ as, P a := by
  induction as generalizing os with
  | nil => cases h; simp [pure, Except.pure]
  | cons a rest ih =>
    cases h with
    | cons ho hos =>
      obtain ⟨ha, hrest⟩ := List.forall_mem_cons.mp hread
      rw [List.forall_mem_cons, ← ha _ ho, ← ih hos hrest, List.mapM_cons]
      constructor
      · intro hok
        obtain ⟨b, hb, hok⟩ := exists_of_bind_eq_ok hok
        obtain ⟨bs, hbs, hok⟩ := exists_of_bind_eq_ok hok
        cases hok
        exact ⟨hb, hbs⟩
      · rintro ⟨hb, hbs⟩
        rw [hb, hbs]
        rfl

theorem values_eq_mapM (os : List Outline) : values b os = os.mapM (value b) := by
  induction os with
  | nil => rfl
  | cons o os ih => rw [values, List.mapM_cons, ih]

theorem memberValues_eq_ok_iff (h : ShowsMembers N members ms) (hdistinct : DistinctKeys ms)
    (hvalue : ∀ m ∈ ms, ∀ o : Outline, o.Shows N m.2 → (o.value b = .ok m.2 ↔ m.2.Numbers Q)) :
    memberValues b [] members = .ok ms ↔ ∀ m ∈ ms, m.2.Numbers Q := by
  have hkeys : members.map (fun m => m.1.text) = (ms.map Prod.fst).map .ok := by
    rw [h.keys, List.map_map]
    rfl
  have hdone : (([] : List (String × Value)).map Prod.fst ++ ms.map Prod.fst).Nodup := hdistinct
  rw [memberValues_eq hkeys hdone, ← h.items.mapM_eq_ok_iff hvalue, ← values_eq_mapM]
  have hzip : (ms.map Prod.fst).zip (ms.map fun m => m.2) = ms := by
    rw [List.zip_map', List.map_id'']
    exact fun _ => rfl
  constructor
  · intro hread
    cases hvs : values b (members.map fun m => m.2.1) with
    | error e => rw [hvs] at hread; cases hread
    | ok vs =>
      rw [hvs] at hread
      have heq : (ms.map Prod.fst).zip vs = ms := by simpa [Except.map] using hread
      have hlength : vs.length = ms.length := by
        have hmembers := congrArg List.length hkeys
        rw [length_of_values hvs]
        simpa using hmembers
      rw [← heq, List.map_snd_zip]
      simp [hlength]
  · intro hread
    rw [hread, Except.map, List.nil_append, hzip]

/-- **A value is read from an outline that shows it, if its numbers are read as themselves, and only
then.** -/
theorem value_eq_ok_iff (hN : ∀ w r, w.IsNumber → N w r → (r = .ok w ↔ Q w)) {v : Value} (hv : v.Fits b)
    {o : Outline} (h : o.Shows N v) : o.value b = .ok v ↔ v.Numbers Q := by
  induction hv generalizing o with
  | null => cases h; simp [value, Value.numbers_null]
  | bool c => cases h; simp [value, Value.numbers_bool]
  | string s => cases h; simp [value, Value.numbers_string, Except.map]
  | integer hn =>
    cases h with
    | integer p q hr =>
      rw [Value.numbers_of_isNumber (.inl ⟨_, rfl⟩), ← hN _ _ (.inl ⟨_, rfl⟩) hr, value]
  | float x =>
    cases h with
    | float p q hr =>
      rw [Value.numbers_of_isNumber (.inr ⟨_, rfl⟩), ← hN _ _ (.inr ⟨_, rfl⟩) hr, value]
  | @array b inner items henter hitems ih =>
    cases h with
    | array p q hos =>
      rw [← List.map_id items] at hos
      rw [Value.numbers_array_iff, ← hos.mapM_eq_ok_iff fun v hv o ho => ih v hv ho,
        ← values_eq_mapM, List.map_id', value, henter p]
      constructor
      · intro hread
        obtain ⟨_, ⟨⟩, hread⟩ := exists_of_bind_eq_ok hread
        obtain ⟨vs, hvs, hread⟩ := exists_of_bind_eq_ok hread
        cases hread
        exact hvs
      · intro hread
        simp only [bind, Except.bind, hread]
        rfl
  | object henter hkeys hmembers ih =>
    cases h with
    | object p q hshow =>
      rw [Value.numbers_object_iff,
        ← memberValues_eq_ok_iff hshow hkeys fun m hm o ho => ih m hm ho, value, henter p]
      constructor
      · intro hread
        obtain ⟨_, ⟨⟩, hread⟩ := exists_of_bind_eq_ok hread
        obtain ⟨ms, hms, hread⟩ := exists_of_bind_eq_ok hread
        cases hread
        exact hms
      · intro hread
        simp only [bind, Except.bind, hread]
        rfl

end Outline

/-! ## Values without a text -/

mutual

/-- A value as a reader meets it who is given the value itself: an outline without positions. -/
def Value.outline : Value → Outline
  | .null => .null .start .start
  | .bool b => .bool .start .start b
  | .integer n => .number .start .start (.ok (.integer n))
  | .float x => .number .start .start (.ok (.float x))
  | .string s => .string .start .start (.ok s)
  | .array items => .array .start (outlines items) (.closed .start)
  | .object members => .object .start (memberOutlines members) (.closed .start)

def Value.outlines : List Value → List Outline
  | [] => []
  | v :: rest => v.outline :: outlines rest

def Value.memberOutlines : List (String × Value) → List (Key × Outline × Position)
  | [] => []
  | (key, v) :: rest => (⟨.ok key, .start, .start⟩, v.outline, .start) :: memberOutlines rest

end

mutual

theorem Value.shows_outline : ∀ v : Value, v.outline.Shows (fun w r => r = .ok w) v
  | .null => .null _ _
  | .bool b => .bool _ _ b
  | .integer _ => .integer _ _ rfl
  | .float _ => .float _ _ rfl
  | .string s => .string _ _ s
  | .array items => .array _ _ (shows_outlines items)
  | .object members => .object _ _ (shows_memberOutlines members)

theorem Value.shows_outlines :
    ∀ vs : List Value, Outline.ShowsItems (fun w r => r = .ok w) (outlines vs) vs
  | [] => .nil
  | v :: rest => .cons (shows_outline v) (shows_outlines rest)

theorem Value.shows_memberOutlines :
    ∀ ms : List (String × Value),
      Outline.ShowsMembers (fun w r => r = .ok w) (memberOutlines ms) ms
  | [] => .nil
  | (_, v) :: rest => .cons rfl _ (shows_outline v) (shows_memberOutlines rest)

end

end SceneMarkup.Json
