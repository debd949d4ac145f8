import SceneMarkup.Proofs.Scale.Search

/-!
# The nearest bucket

The search of a scale with exact distances (`Gauge.exact`), which are rationals, and a greatest one
for what is not finite. It ends at the first of the nearest buckets (`Spacing.nearestBy_exact`), and
it is what floats do where no distance is rounded (`Spacing.MeasuresExactly`), such as among the
multiples of a power of two with few digits (`Spacing.measuresExactly_of_multiples`).
-/

namespace SceneMarkup

/-- How far a size is from a bucket; infinitely far unless both are finite. -/
def exactDistance (px bucket : Float) : WithTop ℚ :=
  match exactValue? px, exactValue? bucket with
  | some x, some b => ((|x - b| : ℚ) : WithTop ℚ)
  | _, _ => ⊤

def Gauge.exact : Gauge (WithTop ℚ) := .ofDistance exactDistance

def Bucket.size (b : Bucket) : ℚ := (exactValue? b.px).getD 0

namespace Spacing

def IsFinite (s : Spacing) : Prop := ∀ b ∈ s.buckets, b.px.isFinite = true

/-- No distance of a size to a bucket is rounded, as the difference is a float. -/
def MeasuresExactly (s : Spacing) (px : Float) : Prop :=
  ∀ b ∈ s.buckets, ∀ x, exactValue? px = some x → ∃ d, exactValue? d = some (x - b.size)

/-- The first entry in list order that is nearest to a rational. -/
def IsFirstNearest (s : Spacing) (x : ℚ) (b : Bucket) : Prop :=
  s.IsFirstLeast (fun c => |x - c.size|) b

/-! ## Exact distances -/

section

variable {s : Spacing} {px : Float} {x : ℚ}

theorem exactDistance_of_none (h : exactValue? px = none) (y : Float) :
    exactDistance px y = ⊤ := by
  rw [exactDistance, h]

theorem size_of_finite (hs : s.IsFinite) {b : Bucket} (hb : b ∈ s.buckets) :
    exactValue? b.px = some b.size := by
  obtain ⟨q, hq⟩ := isFinite_iff_exactValue?.mp (hs b hb)
  rw [Bucket.size, hq, Option.getD_some]

theorem exactDistance_of_mem (hs : s.IsFinite) (hx : exactValue? px = some x) {b : Bucket}
    (hb : b ∈ s.buckets) : exactDistance px b.px = ((|x - b.size| : ℚ) : WithTop ℚ) := by
  rw [exactDistance, hx, size_of_finite hs hb]

theorem isFirstNearest_of_isFirstLeast (hs : s.IsFinite) (hx : exactValue? px = some x)
    {b : Bucket} (h : s.IsFirstLeast (fun c => exactDistance px c.px) b) :
    s.IsFirstNearest x b := by
  have hb := exactDistance_of_mem hs hx (mem_of_isFirstLeast h)
  obtain ⟨before, after, hsplit, hbefore, hafter⟩ := h
  have hmem : ∀ c, c ∈ before ∨ c ∈ after → c ∈ s.buckets := by
    intro c hc
    rw [hsplit, List.mem_append, List.mem_cons]
    tauto
  refine ⟨before, after, hsplit, fun c hc => ?_, fun c hc => ?_⟩
  · have hlt : exactDistance px b.px < exactDistance px c.px := hbefore c hc
    rwa [hb, exactDistance_of_mem hs hx (hmem c (.inl hc)), WithTop.coe_lt_coe] at hlt
  · have hle : exactDistance px b.px ≤ exactDistance px c.px := hafter c hc
    rwa [hb, exactDistance_of_mem hs hx (hmem c (.inr hc)), WithTop.coe_le_coe] at hle

theorem exists_isFirstNearest (hs : s.IsFinite) (hx : exactValue? px = some x)
    (hne : s.buckets ≠ []) :
    ∃ b, s.IsFirstNearest x b ∧
      s.nearestBy .exact px = ⟨b, ((|x - b.size| : ℚ) : WithTop ℚ)⟩ := by
  rcases nearestBy_ofDistance exactDistance px s with ⟨-, hall⟩ | ⟨b, hfound, -, hleast⟩
  · obtain ⟨b, hb⟩ := List.exists_mem_of_ne_nil s.buckets hne
    have hinfinite := hall b hb
    rw [exactDistance_of_mem hs hx hb] at hinfinite
    exact absurd hinfinite WithTop.coe_ne_top
  · refine ⟨b, isFirstNearest_of_isFirstLeast hs hx hleast, ?_⟩
    rw [exactDistance_of_mem hs hx (mem_of_isFirstLeast hleast)] at hfound
    exact hfound

theorem roundedDistance_of_none (hs : s.IsFinite) (h : exactValue? px = none) {b : Bucket}
    (hb : b ∈ s.buckets) : roundedDistance px b.px = ⊤ := by
  have hsub := exactValue?_sub_of_none h (size_of_finite hs hb)
  exact extent_of_none (exactValue?_abs_of_none hsub)

theorem roundedDistance_eq (hs : s.IsFinite) (h : s.MeasuresExactly px) {b : Bucket}
    (hb : b ∈ s.buckets) : roundedDistance px b.px = exactDistance px b.px := by
  cases hx : exactValue? px with
  | none => rw [roundedDistance_of_none hs hx hb, exactDistance_of_none hx]
  | some x =>
    obtain ⟨d, hd⟩ := h b hb x hx
    have hsub := exactValue?_sub hx (size_of_finite hs hb) hd
    rw [roundedDistance, extent_of_some (exactValue?_abs hsub), exactDistance_of_mem hs hx hb]

/-- Where no distance is rounded, the search in floats is exact. -/
theorem nearestBy_roundedDistance (hs : s.IsFinite) (h : s.MeasuresExactly px) :
    s.nearestBy (.ofDistance roundedDistance) px = s.nearestBy .exact px :=
  nearestBy_congr px s fun _ hb => roundedDistance_eq hs h hb

theorem fitBy?_exact_eq_some_iff (hs : s.IsFinite) {found : Match (WithTop ℚ)} :
    s.fitBy? .exact px = some found ↔ found = s.nearestBy .exact px ∧
      ∃ x, exactValue? px = some x ∧ 0 ≤ x ∧ ∃ b ∈ s.buckets, |x - b.size| ≤ 2 := by
  have hlimit : ((2 : ℚ) : WithTop ℚ) < ⊤ := WithTop.coe_lt_top _
  cases hx : exactValue? px with
  | none =>
    have hinfinite : px.isFinite = false := by
      rw [Bool.eq_false_iff]
      intro h
      obtain ⟨q, hq⟩ := isFinite_iff_exactValue?.mp h
      rw [hx] at hq
      cases hq
    rw [fitBy?_eq, hinfinite]
    constructor
    · nofun
    · rintro ⟨-, x, h, -⟩
      cases h
  | some x =>
    have hfinite : px.isFinite = true := isFinite_iff_exactValue?.mpr ⟨x, hx⟩
    have hnear : Gauge.exact.isTolerable (s.nearestBy .exact px).distance = true ↔
        ∃ b ∈ s.buckets, |x - b.size| ≤ 2 := by
      refine decide_eq_true_iff.trans ?_
      refine (nearestBy_le_iff exactDistance px s hlimit).trans ?_
      refine exists_congr fun b => and_congr_right fun hb => ?_
      rw [exactDistance_of_mem hs hx hb, WithTop.coe_le_coe]
    rw [fitBy?_eq, hfinite]
    simp only [Bool.not_true, Bool.false_or, decide_eq_true_eq, hnear,
      float_lt_iff hx exactValue?_zero, Option.some.injEq, exists_eq_left']
    split
    · rename_i hneg
      constructor
      · nofun
      · rintro ⟨-, hnonneg, -⟩
        exact absurd hneg hnonneg.not_gt
    · rename_i hnonneg
      split
      · rename_i hsome
        rw [Option.some.injEq]
        exact ⟨fun h => ⟨h.symm, not_lt.mp hnonneg, hsome⟩, fun h => h.1.symm⟩
      · rename_i hnone
        constructor
        · nofun
        · rintro ⟨-, -, hsome⟩
          exact absurd hsome hnone

end

/-! ## Sizes that are measured exactly -/

/-- Among the multiples of a power of two that have up to 52 digits nothing is rounded. -/
theorem measuresExactly_of_multiples {s : Spacing} {px : Float} {m e : ℤ}
    (hleast : Binary.leastExponent ≤ e) (hgreatest : e ≤ Binary.greatestExponent)
    (hpx : exactValue? px = some ((m : ℚ) * 2 ^ e)) (hm : m.natAbs < 2 ^ 52)
    (hs : ∀ b ∈ s.buckets, ∃ n : ℤ, b.size = n * 2 ^ e ∧ n.natAbs < 2 ^ 52) :
    s.MeasuresExactly px := by
  intro b hb x hx
  obtain ⟨n, hsize, hn⟩ := hs b hb
  obtain ⟨d, hd⟩ := exists_exactValue? (k := m - n) (by omega) hleast hgreatest
  refine ⟨d, ?_⟩
  rw [hpx, Option.some.injEq] at hx
  rw [hd, ← hx, hsize, ← sub_mul]
  push_cast
  rfl

theorem isFinite_standard : standard.IsFinite := by
  unfold IsFinite
  decide +kernel

theorem size_standard : ∀ b ∈ standard.buckets, b.size = 4 * b.key ∧ b.key ≤ 96 := by
  decide +kernel

/-- On the standard scale floats measure all sizes exactly that are below `2^20` and have up to 32
binary places. -/
theorem measuresExactly_standard {px : Float} {m : ℤ}
    (hpx : exactValue? px = some ((m : ℚ) * 2 ^ (-32 : ℤ))) (hm : m.natAbs < 2 ^ 52) :
    standard.MeasuresExactly px := by
  refine measuresExactly_of_multiples (by decide) (by decide) hpx hm fun b hb => ?_
  obtain ⟨hsize, hkey⟩ := size_standard b hb
  have hunit : (4294967296 : ℚ) * 2 ^ (-32 : ℤ) = 1 := by norm_num
  refine ⟨4 * b.key * 2 ^ 32, ?_, by omega⟩
  rw [hsize]
  push_cast
  rw [mul_assoc, hunit, mul_one]

/-- **The search is exact.** With distances as rationals, a finite size is put into the first bucket
in list order at the least distance. NaN and the infinities, and all sizes on an empty scale, are at
an infinite distance from the first bucket, also in floats. A size fits if it is finite, not
negative and within two pixels of some bucket, and it fits the nearest one. In floats all of this
holds for sizes whose differences to the buckets are floats. -/
theorem nearestBy_exact (s : Spacing) (px : Float) (hs : s.IsFinite) :
    (∀ x, exactValue? px = some x → s.buckets ≠ [] →
      ∃ b, s.IsFirstNearest x b ∧
        s.nearestBy .exact px = ⟨b, ((|x - b.size| : ℚ) : WithTop ℚ)⟩) ∧
    (exactValue? px = none ∨ s.buckets = [] →
      s.nearestBy .exact px = ⟨s.buckets.headD ⟨0, 0⟩, ⊤⟩ ∧
        s.nearest px = ⟨s.buckets.headD ⟨0, 0⟩, 1 / 0⟩) ∧
    (∀ found, s.fitBy? .exact px = some found ↔ found = s.nearestBy .exact px ∧
      ∃ x, exactValue? px = some x ∧ 0 ≤ x ∧ ∃ b ∈ s.buckets, |x - b.size| ≤ 2) ∧
    (s.MeasuresExactly px → (s.nearest px).exact = s.nearestBy .exact px ∧
      (s.fit? px).map Match.exact = s.fitBy? .exact px) := by
  refine ⟨fun x hx hne => exists_isFirstNearest hs hx hne, fun h => ?_,
    fun found => fitBy?_exact_eq_some_iff hs, fun h => ?_⟩
  · have hexact : ∀ b ∈ s.buckets, exactDistance px b.px = ⊤ := by
      intro b hb
      rcases h with hx | hempty
      · exact exactDistance_of_none hx b.px
      · rw [hempty] at hb
        cases hb
    have hrounded : ∀ b ∈ s.buckets, roundedDistance px b.px = ⊤ := by
      intro b hb
      rcases h with hx | hempty
      · exact roundedDistance_of_none hs hx hb
      · rw [hempty] at hb
        cases hb
    exact ⟨s.nearestBy_of_top px hexact, s.nearest_of_top px hrounded⟩
  · have hsearch := nearestBy_roundedDistance hs h
    refine ⟨(s.nearest_rounded px).1.trans hsearch, (s.fit_rounded px).trans ?_⟩
    rw [fitBy?_eq, fitBy?_eq, hsearch]
    rfl

theorem nearestBy_exact_standard :
    (∃ b, standard.IsFirstNearest 6 b ∧
      standard.nearestBy .exact 6 = ⟨b, ((|6 - b.size| : ℚ) : WithTop ℚ)⟩) ∧
    (standard.nearest 6).exact = standard.nearestBy .exact 6 ∧
    standard.nearest 6 = ⟨⟨1, 4⟩, 2⟩ := by
  obtain ⟨hfinite, -, -, hmeasured⟩ := nearestBy_exact standard 6 isFinite_standard
  have hsix : exactValue? 6 = some 6 := by decide +kernel
  have hexact : standard.MeasuresExactly 6 := by
    refine measuresExactly_standard (m := 6 * 2 ^ 32) ?_ (by decide)
    rw [hsix]
    norm_num
  exact ⟨hfinite 6 hsix (by decide), (hmeasured hexact).1, by decide +kernel⟩

end Spacing

end SceneMarkup
