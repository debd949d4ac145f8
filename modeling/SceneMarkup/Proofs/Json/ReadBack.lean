import SceneMarkup.Proofs.Decimal.Texts
import SceneMarkup.Proofs.Json.Scanning

/-!
# Numbers that are read back

Integers of 64 bits are read back from their texts (`readsBack_integer`). One half is, too
(`readsBack_half`), but not every float, since a text is not always read as the nearest one. What a
number in a written value is read as is what its own text is read as (`scannedAs_iff`), so a value is
read back just if its floats are (`ofText_compact_iff`).
-/

namespace SceneMarkup.Json

open Outline (Shows)

def ReadsBack (v : Value) : Prop := Value.ofText v.compact = .ok v

/-! ## Whole texts -/

theorem exists_ofText_of_scansTo {v : Value} {P : Outline → Prop} (h : ScansTo v.compact.toList P) :
    ∃ o, Document.ofText v.compact = ⟨o, none⟩ ∧ P o := by
  have hfuel : 2 * (v.compact.toList ++ []).length + 1 ≤ 2 * v.compact.toList.length + 3 := by
    rw [List.append_nil]
    omega
  obtain ⟨fuel, o, q, hleft, ho, hscan⟩ := h _ [] .start [] nofun hfuel
  obtain ⟨n, rfl⟩ : ∃ n, fuel = n + 1 := ⟨fuel - 1, by omega⟩
  refine ⟨o, ?_, ho⟩
  rw [List.append_nil] at hscan
  unfold Document.ofText Cursor.ofText
  simp only [hscan]
  rfl

theorem Document.read_of_none {α : Type} (o : Outline) (reader : Outline → Except Error α) :
    (Document.mk o none).read reader = reader o := by
  unfold Document.read
  cases reader o <;> rfl

theorem ofText_compact {v : Value} {o : Outline} (h : Document.ofText v.compact = ⟨o, none⟩) :
    Value.ofText v.compact = o.value none := by
  rw [Value.ofText, h, Document.read_of_none]

/-! ## Numbers -/

/-- The text of a number stands for what the number is read as. -/
theorem exists_ofText_number {w : Value} (hnumber : w.IsNumber) (hw : Writable w) :
    ∃ r, ScannedAs w r ∧ Value.ofText w.compact = r := by
  rcases hnumber with ⟨n, rfl⟩ | ⟨x, rfl⟩
  · obtain ⟨o, hdocument, ho⟩ :=
      exists_ofText_of_scansTo (scansTo_number hw fun p q r hr => Shows.integer p q hr)
    rw [ofText_compact hdocument]
    cases ho with
    | integer p q hr => exact ⟨_, hr, by rw [Outline.value]⟩
  · obtain ⟨o, hdocument, ho⟩ :=
      exists_ofText_of_scansTo (scansTo_number hw fun p q r hr => Shows.float p q hr)
    rw [ofText_compact hdocument]
    cases ho with
    | float p q hr => exact ⟨_, hr, by rw [Outline.value]⟩

/-- **A number is read as itself anywhere just if it is read back alone.** -/
theorem scannedAs_iff {w : Value} (hnumber : w.IsNumber) {r : Except Error Value}
    (h : ScannedAs w r) : r = .ok w ↔ ReadsBack w := by
  obtain ⟨t, p, ht, rfl⟩ := h
  obtain ⟨r, ⟨u, q, hu, rfl⟩, hread⟩ := exists_ofText_number hnumber ⟨t, ht⟩
  rw [ReadsBack, hread, ht.unique hu]
  exact NumberText.value_eq_ok_iff p q

/-- **Integers are read back.** -/
theorem readsBack_integer {n : Int} (hn : FitsWord n) : ReadsBack (.integer n) := by
  have hscanned : ScannedAs (.integer n) ((NumberText.ofInt n).value .start) :=
    ⟨_, _, by rw [Value.compact]; exact spelled_int n, rfl⟩
  refine (scannedAs_iff (.inl ⟨n, rfl⟩) hscanned).mp ?_
  rw [NumberText.value, integer?_ofInt hn]

/-! ## Floats -/

section

variable {x : Float}

theorem text_half (hx : Binary.ofFloat? x = some ⟨false, 2 ^ 52, -53⟩) :
    Layout.json.text x = "0.5" := by
  have hmagnitude : Binary.magnitude ⟨false, 2 ^ 52, -53⟩ = 0 :=
    Binary.magnitude_eq (n := 323) (by decide +kernel) (by decide +kernel)
  rw [Layout.text, hx]
  simp only [Binary.shortest, hmagnitude]
  decide +kernel

theorem readsBack_half (hx : Binary.ofFloat? x = some ⟨false, 2 ^ 52, -53⟩) :
    ReadsBack (.float x) := by
  have hread : (match Value.ofText "0.5" with
    | .ok (.float y) => decide (Binary.ofFloat? y = some ⟨false, 2 ^ 52, -53⟩)
    | _ => false) = true := by decide +kernel
  rw [ReadsBack, Value.compact, text_half hx]
  split at hread
  · rename_i y hy
    rw [hy, Binary.ofFloat?_inj hx (of_decide_eq_true hread)]
  · cases hread

/-- The text of the float below the nearest one to `10^25`. -/
theorem text_below (hx : Binary.ofFloat? x = some ⟨false, 4656612873077392, 31⟩) :
    Layout.json.text x = "9.999999999999999e+24" := by
  have hmagnitude : Binary.magnitude ⟨false, 4656612873077392, 31⟩ = 25 :=
    Binary.magnitude_eq (n := 348) (by decide +kernel) (by decide +kernel)
  rw [Layout.text, hx]
  simp only [Binary.shortest, hmagnitude]
  decide +kernel

end

/-! ## Values -/

theorem Value.Fits.fitsWord_of_within {b : Budget} {v : Value} (hv : v.Fits b) {n : Int}
    (h : (Value.integer n).Within v) : FitsWord n := by
  induction h generalizing b with
  | self => cases hv with | integer hn => exact hn
  | item hitem _ ih => cases hv with | array _ hitems => exact ih (hitems _ hitem)
  | member hmember _ ih => cases hv with | object _ _ hmembers => exact ih (hmembers _ hmember)

def Value.Floats (P : Float → Prop) (v : Value) : Prop := ∀ x : Float, (Value.float x).Within v → P x

theorem Value.Fits.numbers_readsBack_iff {b : Budget} {v : Value} (hv : v.Fits b) :
    v.Numbers ReadsBack ↔ v.Floats fun x => ReadsBack (.float x) := by
  constructor
  · exact fun h x hx => h _ hx (.inr ⟨x, rfl⟩)
  · rintro h w hw (⟨n, rfl⟩ | ⟨x, rfl⟩)
    · exact readsBack_integer (hv.fitsWord_of_within hw)
    · exact h x hw

/-- **A value is read back from its text just if its floats are.** -/
theorem ofText_compact_iff {v : Value} (hv : v.Fits none) :
    ReadsBack v ↔ v.Floats fun x => ReadsBack (.float x) := by
  obtain ⟨o, hdocument, ho⟩ := exists_ofText_of_scansTo (scansTo_compact hv)
  rw [← hv.numbers_readsBack_iff, ReadsBack, ofText_compact hdocument]
  exact Outline.value_eq_ok_iff (fun w r hnumber hr => scannedAs_iff hnumber hr) hv ho

end SceneMarkup.Json
