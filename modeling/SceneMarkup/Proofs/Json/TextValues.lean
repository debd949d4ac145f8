import SceneMarkup.Proofs.Json.FiniteNumbers
import SceneMarkup.Proofs.Json.Shown

/-!
# Values that are read from a text

Whatever a text is, the numbers in its outline are what number texts stand for
(`Document.fromText_ofText`). So a value that is read from it fits into the budget that it is read
with (`Outline.fits_of_value`), and null is read only where it is written (`Outline.eq_null_of_value`).
-/

namespace SceneMarkup.Json

/-- An outline whose numbers stand for texts of numbers. -/
inductive Outline.FromText : Outline → Prop where
  | null (p q : Position) : FromText (.null p q)
  | bool (p q : Position) (b : Bool) : FromText (.bool p q b)
  | number (p q : Position) (t : NumberText) (stop : Position) : FromText (.number p q (t.value stop))
  | string (p q : Position) (text : Except Error String) : FromText (.string p q text)
  | array (p : Position) {items : List Outline} (ending : Ending) (h : ∀ o ∈ items, FromText o) :
      FromText (.array p items ending)
  | object (p : Position) {members : List (Key × Outline × Position)} (ending : Ending)
      (h : ∀ m ∈ members, FromText m.2.1) : FromText (.object p members ending)
  | broken (p : Position) (lead : Option Char) (read skim : Error) :
      FromText (.broken p lead read skim)

open Outline (FromText)

/-! ## The scan -/

def Open.FromText : Open → Prop
  | .list _ items => ∀ o ∈ items, o.FromText
  | .object _ members _ => ∀ m ∈ members, m.2.1.FromText

def Task.FromText : Task → Prop
  | .value => True
  | .after o => o.FromText

theorem fromText_reverse {items : List Outline} {o : Outline} (p : Position) (ending : Ending)
    (ho : o.FromText) (hitems : ∀ o ∈ items, o.FromText) :
    (Outline.array p (o :: items).reverse ending).FromText :=
  .array p ending fun o' ho' => (List.mem_cons.mp (List.mem_reverse.mp ho')).elim
    (fun heq => heq ▸ ho) (hitems o')

theorem fromText_reverseMembers {members : List (Key × Outline × Position)} {o : Outline} (key : Key)
    (p q : Position) (ending : Ending) (ho : o.FromText) (hmembers : ∀ m ∈ members, m.2.1.FromText) :
    (Outline.object p ((key, o, q) :: members).reverse ending).FromText :=
  .object p ending fun m hm => (List.mem_cons.mp (List.mem_reverse.mp hm)).elim
    (fun heq => heq ▸ ho) (hmembers m)

theorem fromText_cutOff {o : Outline} {stack : List Open} (ho : o.FromText)
    (hstack : ∀ s ∈ stack, s.FromText) : (cutOff o stack).FromText := by
  induction stack generalizing o with
  | nil => exact ho
  | cons s stack ih =>
    obtain ⟨hs, hrest⟩ := List.forall_mem_cons.mp hstack
    cases s with
    | list p items => exact ih (fromText_reverse p .cut ho hs) hrest
    | object p members key => exact ih (fromText_reverseMembers key p o.start .cut ho hs) hrest

theorem fromText_scanScalar (fuel : Nat) (c : Cursor) :
    (∀ o after, scanScalar fuel c = .ok (o, after) → o.FromText) ∧
      ∀ o, scanScalar fuel c = .error o → o.FromText := by
  unfold scanScalar
  simp only
  constructor
  · intro o after h
    repeat' split at h
    all_goals cases h
    all_goals constructor
  · intro o h
    repeat' split at h
    all_goals cases h
    all_goals constructor

theorem fromText_scan {fuel : Nat} (task : Task) {stack : List Open} {c : Cursor}
    (htask : task.FromText) (hstack : ∀ s ∈ stack, s.FromText) :
    (scan fuel task stack c).1.FromText := by
  induction fuel generalizing task stack c with
  | zero => exact .broken _ _ _ _
  | succ fuel ih =>
    cases task with
    | value =>
      have hempty (p : Position) (ending : Ending) : (Outline.array p [] ending).FromText :=
        .array p ending (List.forall_mem_nil _)
      have hempty' (p : Position) (ending : Ending) : (Outline.object p [] ending).FromText :=
        .object p ending (List.forall_mem_nil _)
      rw [scan]
      simp only
      split
      · split
        · exact ih (.after _) (hempty _ _) hstack
        · exact fromText_cutOff (hempty _ _) hstack
        · exact ih .value htask (List.forall_mem_cons.mpr ⟨List.forall_mem_nil _, hstack⟩)
      · split
        · exact ih .value htask (List.forall_mem_cons.mpr ⟨List.forall_mem_nil _, hstack⟩)
        · exact ih (.after _) (hempty' _ _) hstack
        · exact fromText_cutOff (hempty' _ _) hstack
      · split
        · rename_i hscalar
          exact ih (.after _) ((fromText_scanScalar _ _).1 _ _ hscalar) hstack
        · rename_i hscalar
          exact fromText_cutOff ((fromText_scanScalar _ _).2 _ hscalar) hstack
    | after o =>
      cases stack with
      | nil => exact htask
      | cons s stack =>
        obtain ⟨hs, hrest⟩ := List.forall_mem_cons.mp hstack
        cases s with
        | list p items =>
          have hclose (ending : Ending) := fromText_reverse p ending htask hs
          have hmore : ∀ s ∈ Open.list p (o :: items) :: stack, s.FromText :=
            List.forall_mem_cons.mpr ⟨List.forall_mem_cons.mpr ⟨htask, hs⟩, hrest⟩
          rw [scan]
          simp only
          split
          · exact fromText_cutOff (hclose _) hrest
          · exact ih (.after _) (hclose _) hrest
          · split
            · exact fromText_cutOff (hclose _) hrest
            · exact fromText_cutOff (hclose _) hrest
            · exact ih .value trivial hmore
          · exact fromText_cutOff (hclose _) hrest
        | object p members key =>
          have hclose (q : Position) (ending : Ending) :=
            fromText_reverseMembers key p q ending htask hs
          have hmore (q : Position) (key' : Key) :
              ∀ s ∈ Open.object p ((key, o, q) :: members) key' :: stack, s.FromText :=
            List.forall_mem_cons.mpr ⟨List.forall_mem_cons.mpr ⟨htask, hs⟩, hrest⟩
          rw [scan]
          simp only
          split
          · exact fromText_cutOff (hclose _ _) hrest
          · exact ih (.after _) (hclose _ _) hrest
          · split
            · exact ih .value trivial (hmore _ _)
            · exact fromText_cutOff (hclose _ _) hrest
          · exact fromText_cutOff (hclose _ _) hrest

/-- **The numbers of an outline stand for texts of numbers.** -/
theorem Document.fromText_ofText (text : String) : (Document.ofText text).root.FromText := by
  unfold Document.ofText
  simp only
  exact fromText_scan .value trivial (List.forall_mem_nil Open.FromText)

/-! ## Reading -/

theorem NumberText.fitsWord_of_integer? {t : NumberText} {n : Int} (h : t.integer? = some n) :
    FitsWord n := by
  unfold NumberText.integer? at h
  simp only at h
  split at h
  · cases h
  · split at h
    · split at h
      · rename_i hbounds
        cases h
        simp only [Bool.and_eq_true, decide_eq_true_eq] at hbounds
        exact ⟨by omega, by omega⟩
      · cases h
    · split at h
      · cases h
        exact ⟨by omega, by omega⟩
      · cases h

theorem NumberText.cases_of_value {t : NumberText} {stop : Position} {v : Value}
    (h : t.value stop = .ok v) :
    (∃ n, v = .integer n ∧ FitsWord n) ∨ ∃ x, v = .float x ∧ x.isFinite = true := by
  unfold NumberText.value at h
  split at h
  · rename_i n hn
    cases h
    exact .inl ⟨n, rfl, fitsWord_of_integer? hn⟩
  · split at h
    · rename_i hx
      cases h
      exact .inr ⟨_, rfl, isFinite_of_float hx⟩
    · cases h

theorem Budget.enter_eq_of_eq_ok {b inner : Budget} {p : Position} (h : b.enter p = .ok inner)
    (q : Position) : b.enter q = .ok inner := by
  rcases b with _ | _ | n
  · exact h
  · cases h
  · exact h

namespace Outline

variable {b : Budget}

theorem mem_putMember {key : String} {value : Value} {ms : List (String × Value)}
    {m : String × Value} (h : m ∈ putMember key value ms) : m = (key, value) ∨ m ∈ ms := by
  induction ms with
  | nil => exact .inl (List.mem_singleton.mp h)
  | cons head ms ih =>
    obtain ⟨k, v⟩ := head
    unfold putMember at h
    split at h
    · rename_i hk
      rcases List.mem_cons.mp h with rfl | h
      · exact .inl (by rw [hk])
      · exact .inr (.tail _ h)
    · rcases List.mem_cons.mp h with rfl | h
      · exact .inr (.head _)
      · exact (ih h).imp_right (.tail _)

theorem exists_of_mem_memberValues {members : List (Key × Outline × Position)}
    {done ms : List (String × Value)} (h : memberValues b done members = .ok ms)
    {m : String × Value} (hm : m ∈ ms) :
    m ∈ done ∨ ∃ member ∈ members, member.2.1.value b = .ok m.2 := by
  induction members generalizing done with
  | nil => cases h; exact .inl hm
  | cons member members ih =>
    obtain ⟨key, o, p⟩ := member
    unfold memberValues at h
    obtain ⟨k, -, h⟩ := exists_of_bind_eq_ok h
    obtain ⟨v, hv, h⟩ := exists_of_bind_eq_ok h
    rcases ih h with hdone | ⟨member, hmember, hvalue⟩
    · rcases mem_putMember hdone with rfl | hdone
      · exact .inr ⟨_, .head _, hv⟩
      · exact .inl hdone
    · exact .inr ⟨member, .tail _ hmember, hvalue⟩

/-- **A value that is read from a text fits into the budget.** -/
theorem fits_of_value {o : Outline} (ho : o.FromText) {v : Value} (h : o.value b = .ok v) :
    v.Fits b := by
  induction ho generalizing b v with
  | null p q => cases h; exact .null
  | bool p q c => cases h; exact .bool c
  | broken p lead read skim => cases h
  | number p q t stop =>
    rcases NumberText.cases_of_value h with ⟨n, rfl, hn⟩ | ⟨x, rfl, hx⟩
    · exact .integer hn
    · exact .float hx
  | string p q text =>
    cases text with
    | ok s => cases h; exact .string s
    | error e => cases h
  | array p ending _ ih =>
    unfold value at h
    obtain ⟨inner, henter, h⟩ := exists_of_bind_eq_ok h
    obtain ⟨vs, hvs, h⟩ := exists_of_bind_eq_ok h
    obtain ⟨-, -, h⟩ := exists_of_bind_eq_ok h
    cases h
    refine .array (Budget.enter_eq_of_eq_ok henter) fun v hv => ?_
    rw [values_eq_mapM] at hvs
    obtain ⟨o, ho, hvalue⟩ := exists_of_mem_mapM hvs hv
    exact ih o ho hvalue
  | object p ending _ ih =>
    unfold value at h
    obtain ⟨inner, henter, h⟩ := exists_of_bind_eq_ok h
    obtain ⟨ms, hms, h⟩ := exists_of_bind_eq_ok h
    obtain ⟨-, -, h⟩ := exists_of_bind_eq_ok h
    cases h
    have hnil : DistinctKeys ([] : List (String × Value)) := List.nodup_nil
    refine .object (Budget.enter_eq_of_eq_ok henter) (hnil.memberValues hms) fun m hm => ?_
    rcases exists_of_mem_memberValues hms hm with hnone | ⟨member, hmember, hvalue⟩
    · cases hnone
    · exact ih member hmember hvalue

theorem eq_null_of_value {o : Outline} (ho : o.FromText) (h : o.value b = .ok .null) :
    ∃ p q, o = .null p q := by
  cases ho with
  | null p q => exact ⟨p, q, rfl⟩
  | bool p q c => cases h
  | broken p lead read skim => cases h
  | number p q t stop =>
    rcases NumberText.cases_of_value h with ⟨n, hn, -⟩ | ⟨x, hx, -⟩
    · cases hn
    · cases hx
  | string p q text => cases text <;> cases h
  | array p ending _ =>
    unfold value at h
    obtain ⟨inner, _, h⟩ := exists_of_bind_eq_ok h
    obtain ⟨vs, _, h⟩ := exists_of_bind_eq_ok h
    obtain ⟨-, -, h⟩ := exists_of_bind_eq_ok h
    cases h
  | object p ending _ =>
    obtain ⟨ms, hms, -⟩ := distinctKeys_of_value h
    cases hms

end Outline

end SceneMarkup.Json
