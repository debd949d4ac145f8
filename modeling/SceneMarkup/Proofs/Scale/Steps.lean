import SceneMarkup.Proofs.Decimal.Texts
import SceneMarkup.Scale.Pixels

/-!
# Classes of gaps and paddings

The class of a size tells which size it is (`Pixels.spacingClass_lossless`). A bare step is read as
that many times four pixels, and what stands in brackets is the size itself; no step begins with a
bracket, so that the two do not clash.
-/

namespace SceneMarkup

/-! ## Whole quotients -/

theorem Binary.denominator_pos (b : Binary) : 0 < b.denominator := by
  rw [denominator, Nat.pow_eq]
  exact Nat.two_pow_pos _

theorem Binary.wholeQuotient?_eq_some_iff {b : Binary} {d n : Nat} (hd : 0 < d) :
    b.wholeQuotient? d = some n ↔ b.absValue = d * n := by
  have hunit : 0 < b.denominator * d := Nat.mul_pos b.denominator_pos hd
  have hdenominator : (b.denominator : ℚ) ≠ 0 := Nat.cast_ne_zero.mpr b.denominator_pos.ne'
  have hnatural : b.absValue = d * n ↔ b.numerator = b.denominator * d * n := by
    rw [absValue_eq_div, div_eq_iff hdenominator, ← Nat.cast_mul, ← Nat.cast_mul, Nat.cast_inj,
      Nat.mul_comm, Nat.mul_assoc]
  rw [hnatural, wholeQuotient?]
  constructor
  · intro h
    rw [Option.ite_none_right_eq_some, Option.some.injEq] at h
    obtain ⟨hwhole, hquotient⟩ := h
    rw [← hquotient, Nat.mul_div_cancel' (Nat.dvd_of_mod_eq_zero hwhole)]
  · intro h
    rw [h, Nat.mul_mod_right, if_pos rfl, Nat.mul_div_cancel_left _ hunit]

namespace Pixels

variable {px other : Float} {x : ℚ} {n : Nat}

/-! ## Steps -/

theorem bareStep?_eq_some_iff :
    bareStep? px = some n ↔ 1 ≤ n ∧ n ≤ maxStep ∧ exactValue? px = some (4 * n : ℚ) := by
  cases hx : exactValue? px with
  | none =>
    have hnone : Binary.ofFloat? px = none := Option.map_eq_none_iff.mp hx
    rw [bareStep?, hnone, Option.bind_none, ite_self]
    refine iff_of_false nofun ?_
    rintro ⟨-, -, h⟩
    cases h
  | some x =>
    obtain ⟨b, hb, rfl⟩ := exactValue?_eq_some_iff.mp hx
    have hquotient (m : Nat) : b.wholeQuotient? stepSize = some m ↔ b.absValue = 4 * m :=
      Binary.wholeQuotient?_eq_some_iff (by decide)
    have habs : b.absValue = |b.value| := b.abs_value.symm
    rw [bareStep?, hb, Option.bind_some, Option.ite_none_right_eq_some,
      float_lt_iff exactValue?_zero hx, Option.some.injEq]
    constructor
    · rintro ⟨hpos, h⟩
      split at h
      · rename_i m hm
        rw [Option.ite_none_right_eq_some, Option.some.injEq] at h
        obtain ⟨hle, rfl⟩ := h
        have hvalue := (hquotient m).mp hm
        rw [habs, abs_of_pos hpos] at hvalue
        have hm : (0 : ℚ) < m := by linarith
        exact ⟨Nat.cast_pos.mp hm, hle, hvalue⟩
      · cases h
    · rintro ⟨hone, hle, hvalue⟩
      have hm : (0 : ℚ) < n := Nat.cast_pos.mpr hone
      have hpos : 0 < b.value := by linarith
      rw [(hquotient n).mpr (by rw [habs, abs_of_pos hpos, hvalue])]
      exact ⟨hpos, if_pos hle⟩

/-! ## Texts of steps -/

theorem beq_zero_eq_false (hx : exactValue? px = some x) (hne : x ≠ 0) : (px == 0) = false := by
  rw [Bool.eq_false_iff]
  exact (float_beq_iff hx exactValue?_zero).not.mpr hne

theorem step_eq (hx : exactValue? px = some x) (hne : x ≠ 0) :
    step px = match bareStep? px with
      | some n => n.repr
      | none => "[" ++ text px ++ "px]" := by
  rw [step, beq_zero_eq_false hx hne]
  rfl

theorem repr_inj {m n : Nat} (h : m.repr = n.repr) : m = n := by
  rw [← Decimal.ofDigits_repr m, h, Decimal.ofDigits_repr]

theorem repr_ne_bracketed (n : Nat) (text : String) : n.repr ≠ "[" ++ text ++ "px]" := by
  intro h
  have hdigits := Decimal.all_isDigit_repr n
  rw [h, String.append_assoc, String.toList_append] at hdigits
  cases hdigits

theorem step_eq_repr_iff (hx : exactValue? px = some x) (hne : x ≠ 0) :
    step px = n.repr ↔ bareStep? px = some n := by
  rw [step_eq hx hne]
  cases bareStep? px with
  | some m =>
    rw [Option.some.injEq]
    exact ⟨repr_inj, congrArg Nat.repr⟩
  | none => exact iff_of_false (repr_ne_bracketed n _).symm nofun

theorem step_eq_bracketed_iff (hx : exactValue? px = some x) (hne : x ≠ 0) :
    step px = "[" ++ text px ++ "px]" ↔ bareStep? px = none := by
  rw [step_eq hx hne]
  cases bareStep? px with
  | some m => exact iff_of_false (repr_ne_bracketed m _) nofun
  | none => exact iff_of_true rfl rfl

theorem text_inj (hx : exactValue? px = some x) (hne : x ≠ 0) {y : ℚ}
    (hy : exactValue? other = some y) (hne' : y ≠ 0) (h : text px = text other) : px = other := by
  rw [text, text, beq_zero_eq_false hx hne, beq_zero_eq_false hy hne'] at h
  exact Layout.positional.text_inj (isFinite_iff_exactValue?.mpr ⟨x, hx⟩)
    (isFinite_iff_exactValue?.mpr ⟨y, hy⟩) h

theorem step_inj (hx : exactValue? px = some x) (hne : x ≠ 0) {y : ℚ}
    (hy : exactValue? other = some y) (hne' : y ≠ 0) (h : step px = step other) : px = other := by
  cases hm : bareStep? px with
  | some m =>
    rw [(step_eq_repr_iff hx hne).mpr hm, eq_comm, step_eq_repr_iff hy hne'] at h
    have hvalue := (bareStep?_eq_some_iff.mp hm).2.2
    rw [← (bareStep?_eq_some_iff.mp h).2.2, hy] at hvalue
    exact eq_of_exactValue? hvalue hy hne'
  | none =>
    rw [(step_eq_bracketed_iff hx hne).mpr hm] at h
    cases hn : bareStep? other with
    | some n =>
      rw [(step_eq_repr_iff hy hne').mpr hn] at h
      exact absurd h.symm (repr_ne_bracketed n _)
    | none =>
      rw [(step_eq_bracketed_iff hy hne').mpr hn] at h
      have htext : text px = text other :=
        (String.append_right_inj _).mp ((String.append_left_inj _).mp h)
      exact text_inj hx hne hy hne' htext

/-! ## Classes -/

/-- A class is there for finite sizes other than zero. -/
theorem spacingClass?_eq_some_iff {family name : String} :
    spacingClass? family px = some name ↔
      ∃ x, exactValue? px = some x ∧ x ≠ 0 ∧ family ++ "-" ++ step px = name := by
  rw [spacingClass?, Option.ite_none_left_eq_some, Option.some.injEq, Bool.or_eq_true,
    Bool.not_eq_true', not_or]
  constructor
  · rintro ⟨⟨hzero, hfinite⟩, hname⟩
    obtain ⟨x, hx⟩ := isFinite_iff_exactValue?.mp (Bool.not_eq_false _ |>.mp hfinite)
    exact ⟨x, hx, (float_beq_iff hx exactValue?_zero).not.mp hzero, hname⟩
  · rintro ⟨x, hx, hne, hname⟩
    refine ⟨⟨(float_beq_iff hx exactValue?_zero).not.mpr hne, ?_⟩, hname⟩
    exact Bool.not_eq_false _ |>.mpr (isFinite_iff_exactValue?.mpr ⟨x, hx⟩)

/-- **Classes of gaps and paddings lose nothing.** A class is missing just for zero and for what is
not finite. It is a bare step just for the positive multiples of four pixels up to 384, and the text
of the size in brackets for all others. Sizes with the same class are the same. -/
theorem spacingClass_lossless (family : String) (px : Float) :
    (spacingClass? family px = none ↔ exactValue? px = none ∨ exactValue? px = some 0) ∧
    (∀ n : Nat, spacingClass? family px = some (family ++ "-" ++ n.repr) ↔
      1 ≤ n ∧ n ≤ 96 ∧ exactValue? px = some (4 * n : ℚ)) ∧
    (spacingClass? family px = some (family ++ "-" ++ ("[" ++ text px ++ "px]")) ↔
      ∃ x, exactValue? px = some x ∧ x ≠ 0 ∧ ¬ ∃ n : Nat, 1 ≤ n ∧ n ≤ 96 ∧ x = 4 * n) ∧
    ∀ other name, spacingClass? family px = some name → spacingClass? family other = some name →
      px = other := by
  refine ⟨?_, fun n => ?_, ?_, fun other name hpx hother => ?_⟩
  · rw [Option.eq_none_iff_forall_ne_some]
    simp only [ne_eq, spacingClass?_eq_some_iff]
    cases hx : exactValue? px with
    | none => simp
    | some x => simp [eq_comm]
  · rw [spacingClass?_eq_some_iff]
    constructor
    · rintro ⟨x, hx, hne, hname⟩
      have hstep := (String.append_right_inj _).mp hname
      exact bareStep?_eq_some_iff.mp ((step_eq_repr_iff hx hne).mp hstep)
    · rintro ⟨hone, hle, hx⟩
      have hne : (4 * n : ℚ) ≠ 0 := by positivity
      have hbare := bareStep?_eq_some_iff.mpr ⟨hone, hle, hx⟩
      exact ⟨_, hx, hne, by rw [(step_eq_repr_iff hx hne).mpr hbare]⟩
  · rw [spacingClass?_eq_some_iff]
    refine exists_congr fun x => and_congr_right fun hx => and_congr_right fun hne => ?_
    rw [String.append_right_inj, step_eq_bracketed_iff hx hne, Option.eq_none_iff_forall_ne_some,
      not_exists]
    refine forall_congr' fun n => not_congr ?_
    rw [bareStep?_eq_some_iff, hx, Option.some.injEq]
    rfl
  · obtain ⟨x, hx, hne, rfl⟩ := spacingClass?_eq_some_iff.mp hpx
    obtain ⟨y, hy, hne', hname⟩ := spacingClass?_eq_some_iff.mp hother
    exact step_inj hx hne hy hne' ((String.append_right_inj _).mp hname).symm

theorem spacingClass_lossless_gap :
    spacingClass? "gap" 16 = some ("gap" ++ "-" ++ Nat.repr 4) ∧
      spacingClass? "gap" 13 = some ("gap" ++ "-" ++ ("[" ++ text 13 ++ "px]")) ∧
      (16 : Float) = 32 / 2 := by
  have hsixteen : exactValue? 16 = some (4 * (4 : Nat) : ℚ) := by decide +kernel
  have hthirteen : exactValue? 13 = some 13 := by decide +kernel
  have hodd : ¬ ∃ n : Nat, 1 ≤ n ∧ n ≤ 96 ∧ (13 : ℚ) = 4 * n := by
    rintro ⟨n, -, -, h⟩
    have : 13 = 4 * n := by exact_mod_cast h
    omega
  obtain ⟨-, hbare, -, hinj⟩ := spacingClass_lossless "gap" 16
  obtain ⟨-, -, hbracketed, -⟩ := spacingClass_lossless "gap" 13
  exact ⟨(hbare 4).mpr ⟨by decide, by decide, hsixteen⟩,
    hbracketed.mpr ⟨13, hthirteen, by norm_num, hodd⟩,
    hinj (32 / 2) "gap-4" (by decide +kernel) (by decide +kernel)⟩

end Pixels

end SceneMarkup
