import SceneMarkup.Proofs.Decimal.Underflow
import SceneMarkup.Proofs.Scale.Nearest

/-!
# Sizes put on an ascending scale

On an ascending scale the exact search is monotone, and it keeps the sizes of the buckets
(`Spacing.retraction`). A bucket that wins against a smaller one, which stands before it in the
list, is strictly nearer; so the size is above the midpoint of the two, and that of a smaller winner
is not. Floats keep the sizes of the buckets too, since they tell different sizes apart
(`exactValue?_sub_ne_zero`).
-/

namespace SceneMarkup

namespace Spacing

def IsAscending (s : Spacing) : Prop := s.buckets.Pairwise fun b c => b.size < c.size

section

variable {s : Spacing} {px : Float} {x y : ℚ} {b c : Bucket}

theorem add_lt_of_abs_lt {p q : ℚ} (hlt : p < q) (h : |x - q| < |x - p|) : p + q < 2 * x := by
  by_contra hge
  have hq : x - q ≤ 0 := by linarith
  have hp : x - p ≤ q - x := by linarith
  rw [abs_of_nonpos hq] at h
  have habs : |x - p| ≤ q - x := abs_le.mpr ⟨by linarith, hp⟩
  linarith

theorem le_add_of_abs_le {p q : ℚ} (hlt : p < q) (h : |x - p| ≤ |x - q|) : 2 * x ≤ p + q := by
  by_contra hgt
  have hp : 0 ≤ x - p := by linarith
  rw [abs_of_nonneg hp] at h
  have habs : |x - q| < x - p := abs_lt.mpr ⟨by linarith, by linarith⟩
  linarith

theorem abs_lt_of_size_lt (ha : s.IsAscending) (hb : s.IsFirstNearest x b) (hc : c ∈ s.buckets)
    (hlt : c.size < b.size) : |x - b.size| < |x - c.size| := by
  obtain ⟨before, after, hsplit, hbefore, -⟩ := hb
  rw [IsAscending, hsplit, List.pairwise_append, List.pairwise_cons] at ha
  obtain ⟨-, ⟨hafter, -⟩, -⟩ := ha
  rw [hsplit, List.mem_append, List.mem_cons] at hc
  rcases hc with hc | rfl | hc
  · exact hbefore c hc
  · exact absurd hlt (lt_irrefl _)
  · exact absurd (hafter c hc) hlt.not_gt

theorem size_le_size (ha : s.IsAscending) (hxy : x ≤ y) (hb : s.IsFirstNearest x b)
    (hc : s.IsFirstNearest y c) : b.size ≤ c.size := by
  by_contra hgt
  have hlt : c.size < b.size := not_le.mp hgt
  have hx := add_lt_of_abs_lt hlt (abs_lt_of_size_lt ha hb (mem_of_isFirstLeast hc) hlt)
  have hy := le_add_of_abs_le hlt (le_of_isFirstLeast hc (mem_of_isFirstLeast hb))
  linarith

theorem eq_of_size_eq (ha : s.IsAscending) (hb : b ∈ s.buckets) (hc : c ∈ s.buckets)
    (h : b.size = c.size) : b = c := by
  have hnodup : (s.buckets.map Bucket.size).Nodup :=
    List.pairwise_map.mpr (ha.imp fun hlt => hlt.ne)
  exact List.inj_on_of_nodup_map hnodup hb hc h

/-- The size of a bucket is put into the bucket if the others are at some distance from it. -/
theorem nearestBy_of_mem {distance : Float → Float → WithTop ℚ} (ha : s.IsAscending)
    (hb : b ∈ s.buckets) (hself : distance b.px b.px = ((0 : ℚ) : WithTop ℚ))
    (hother : ∀ c ∈ s.buckets, c.size ≠ b.size → ((0 : ℚ) : WithTop ℚ) < distance b.px c.px) :
    s.nearestBy (.ofDistance distance) b.px = ⟨b, ((0 : ℚ) : WithTop ℚ)⟩ := by
  rcases nearestBy_ofDistance distance b.px s with ⟨-, hall⟩ | ⟨c, hfound, -, hleast⟩
  · have hinfinite := hall b hb
    rw [hself] at hinfinite
    exact absurd hinfinite WithTop.coe_ne_top
  · have hc := mem_of_isFirstLeast hleast
    have hle : distance b.px c.px ≤ distance b.px b.px := le_of_isFirstLeast hleast hb
    rw [hself] at hle
    have hsize : c.size = b.size := by
      by_contra hne
      exact absurd hle (hother c hc hne).not_ge
    rw [hfound, eq_of_size_eq ha hc hb hsize, hself]

theorem nearestBy_exact_of_mem (hs : s.IsFinite) (ha : s.IsAscending) (hb : b ∈ s.buckets) :
    s.nearestBy .exact b.px = ⟨b, ((0 : ℚ) : WithTop ℚ)⟩ := by
  have hx := size_of_finite hs hb
  refine nearestBy_of_mem ha hb ?_ fun c hc hne => ?_
  · rw [exactDistance_of_mem hs hx hb, sub_self, abs_zero]
  · rw [exactDistance_of_mem hs hx hc, WithTop.coe_lt_coe, abs_pos, sub_ne_zero]
    exact hne.symm

/-- In floats a bucket is at no distance from itself, and at some distance from others, as the
difference of different floats is not rounded to zero. -/
theorem nearest_exact_of_mem (hs : s.IsFinite) (ha : s.IsAscending) (hb : b ∈ s.buckets) :
    (s.nearest b.px).exact = ⟨b, ((0 : ℚ) : WithTop ℚ)⟩ := by
  have hx := size_of_finite hs hb
  refine (s.nearest_rounded b.px).1.trans (nearestBy_of_mem ha hb ?_ fun c hc hne => ?_)
  · have hzero : exactValue? 0 = some (b.size - b.size) := by rw [sub_self, exactValue?_zero]
    rw [roundedDistance, extent_of_some (exactValue?_abs (exactValue?_sub hx hx hzero)), sub_self,
      abs_zero]
  · have hdifferent := exactValue?_sub_ne_zero hx (size_of_finite hs hc) hne.symm
    rw [roundedDistance]
    cases hsub : exactValue? (b.px - c.px) with
    | none =>
      rw [extent_of_none (exactValue?_abs_of_none hsub)]
      exact WithTop.coe_lt_top _
    | some r =>
      rw [hsub, ne_eq, Option.some.injEq] at hdifferent
      rw [extent_of_some (exactValue?_abs hsub), WithTop.coe_lt_coe]
      exact abs_pos.mpr hdifferent

end

/-- **Putting sizes on an ascending scale is a monotone retraction.** A greater size is not put into
a smaller bucket, the size of a bucket is put into it at no distance, and so putting twice is
putting once. The last two are so in floats as well, however they are rounded; and all of it is for
sizes that floats measure exactly. -/
theorem retraction (s : Spacing) (hs : s.IsFinite) (hne : s.buckets ≠ []) (ha : s.IsAscending) :
    (∀ a b x y, exactValue? a = some x → exactValue? b = some y → x ≤ y →
      (s.nearestBy .exact a).bucket.size ≤ (s.nearestBy .exact b).bucket.size) ∧
    (∀ b ∈ s.buckets, s.nearestBy .exact b.px = ⟨b, ((0 : ℚ) : WithTop ℚ)⟩ ∧
      (s.nearest b.px).exact = ⟨b, ((0 : ℚ) : WithTop ℚ)⟩) ∧
    (∀ a, s.nearestBy .exact (s.nearestBy .exact a).bucket.px =
        ⟨(s.nearestBy .exact a).bucket, ((0 : ℚ) : WithTop ℚ)⟩ ∧
      (s.nearest (s.nearest a).bucket.px).exact =
        ⟨(s.nearest a).bucket, ((0 : ℚ) : WithTop ℚ)⟩) ∧
    ∀ a, s.MeasuresExactly a → (s.nearest a).exact = s.nearestBy .exact a := by
  refine ⟨fun a b x y hx hy hxy => ?_, fun b hb => ?_, fun a => ⟨?_, ?_⟩, fun a h => ?_⟩
  · obtain ⟨i, hi, hfirst⟩ := exists_isFirstNearest hs hx hne
    obtain ⟨j, hj, hsecond⟩ := exists_isFirstNearest hs hy hne
    rw [hfirst, hsecond]
    exact size_le_size ha hxy hi hj
  · exact ⟨nearestBy_exact_of_mem hs ha hb, nearest_exact_of_mem hs ha hb⟩
  · exact nearestBy_exact_of_mem hs ha (mem_nearestBy exactDistance a hne)
  · have hmem : (s.nearest a).exact.bucket ∈ s.buckets := by
      rw [(s.nearest_rounded a).1]
      exact mem_nearestBy roundedDistance a hne
    exact nearest_exact_of_mem hs ha hmem
  · exact (s.nearest_rounded a).1.trans (nearestBy_roundedDistance hs h)

theorem isAscending_standard : standard.IsAscending := by
  unfold IsAscending
  decide +kernel

theorem retraction_standard :
    standard.IsFinite ∧ standard.buckets ≠ [] ∧ standard.IsAscending ∧
      (standard.nearestBy .exact 13).bucket.size ≤ (standard.nearestBy .exact 14.5).bucket.size ∧
      (standard.nearest (standard.nearest 13).bucket.px).exact =
        ⟨(standard.nearest 13).bucket, ((0 : ℚ) : WithTop ℚ)⟩ := by
  have hnonempty : standard.buckets ≠ [] := by decide
  have hsmall : exactValue? 13 = some 13 := by decide +kernel
  have hgreat : exactValue? 14.5 = some (29 / 2) := by decide +kernel
  obtain ⟨hmonotone, -, htwice, -⟩ :=
    retraction standard isFinite_standard hnonempty isAscending_standard
  exact ⟨isFinite_standard, hnonempty, isAscending_standard,
    hmonotone 13 14.5 13 (29 / 2) hsmall hgreat (by norm_num), (htwice 13).2⟩

end Spacing

end SceneMarkup
