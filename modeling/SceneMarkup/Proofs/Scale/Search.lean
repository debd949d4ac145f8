import SceneMarkup.Proofs.Decimal.Differences
import SceneMarkup.Scale.Spacing

/-!
# The search of a scale

A scan gives up its best match for a strictly nearer bucket only (`foldl_improve`), so that it ends
at the first bucket at the least distance (`nearestBy_ofDistance`), however distances are measured.
The search in floats is the one with distances that are rounded (`Spacing.nearest_rounded`).
-/

namespace SceneMarkup

/-- The rational that a float stands for; NaN and the infinities are beyond all of them. -/
def extent (x : Float) : WithTop ℚ :=
  match exactValue? x with
  | some q => q
  | none => ⊤

/-- Distances in the order of the rationals, with one that is greater than all others. -/
def Gauge.ofDistance (distance : Float → Float → WithTop ℚ) : Gauge (WithTop ℚ) where
  distance := distance
  unreachable := ⊤
  lt a b := a < b
  isTolerable d := d ≤ ((2 : ℚ) : WithTop ℚ)

def roundedDistance (px bucket : Float) : WithTop ℚ := extent (px - bucket).abs

def Match.exact (found : Match Float) : Match (WithTop ℚ) := ⟨found.bucket, extent found.distance⟩

/-- The first entry at the least distance: all before are farther, and none after is nearer. -/
def Spacing.IsFirstLeast {α : Type} [LinearOrder α] (s : Spacing) (distance : Bucket → α)
    (b : Bucket) : Prop :=
  ∃ before after, s.buckets = before ++ b :: after ∧
    (∀ c ∈ before, distance b < distance c) ∧ ∀ c ∈ after, distance b ≤ distance c

open Spacing

/-! ## The scan -/

section

variable (distance : Float → Float → WithTop ℚ) (px : Float)

theorem improve_ofDistance (best : Match (WithTop ℚ)) (b : Bucket) :
    improve (.ofDistance distance) px best b =
      if distance px b.px < best.distance then ⟨b, distance px b.px⟩ else best := by
  simp only [improve, Gauge.ofDistance, decide_eq_true_eq]

/-- A scan keeps the match that it begins with unless a bucket is nearer, and then ends at the first
of the nearest. -/
theorem foldl_improve (buckets : List Bucket) (best : Match (WithTop ℚ)) :
    (buckets.foldl (improve (.ofDistance distance) px) best = best ∧
      ∀ c ∈ buckets, best.distance ≤ distance px c.px) ∨
    ∃ b, buckets.foldl (improve (.ofDistance distance) px) best = ⟨b, distance px b.px⟩ ∧
      distance px b.px < best.distance ∧
      IsFirstLeast ⟨buckets⟩ (fun c => distance px c.px) b := by
  induction buckets generalizing best with
  | nil => exact .inl ⟨rfl, nofun⟩
  | cons b rest ih =>
    rw [List.foldl_cons, improve_ofDistance]
    split
    · rename_i hnearer
      rcases ih ⟨b, distance px b.px⟩ with
        ⟨hfound, hrest⟩ | ⟨c, hfound, hlt, before, after, hsplit, hbefore, hafter⟩
      · exact .inr ⟨b, hfound, hnearer, [], rest, rfl, nofun, hrest⟩
      · refine .inr ⟨c, hfound, hlt.trans hnearer, b :: before, after, ?_, ?_, hafter⟩
        · exact congrArg (b :: ·) hsplit
        · exact List.forall_mem_cons.mpr ⟨hlt, hbefore⟩
    · rename_i hfarther
      rw [not_lt] at hfarther
      rcases ih best with
        ⟨hfound, hrest⟩ | ⟨c, hfound, hlt, before, after, hsplit, hbefore, hafter⟩
      · exact .inl ⟨hfound, List.forall_mem_cons.mpr ⟨hfarther, hrest⟩⟩
      · refine .inr ⟨c, hfound, hlt, b :: before, after, ?_, ?_, hafter⟩
        · exact congrArg (b :: ·) hsplit
        · exact List.forall_mem_cons.mpr ⟨hlt.trans_le hfarther, hbefore⟩

theorem nearestBy_ofDistance (s : Spacing) :
    (s.nearestBy (.ofDistance distance) px = ⟨s.buckets.headD ⟨0, 0⟩, ⊤⟩ ∧
      ∀ c ∈ s.buckets, distance px c.px = ⊤) ∨
    ∃ b, s.nearestBy (.ofDistance distance) px = ⟨b, distance px b.px⟩ ∧
      distance px b.px < ⊤ ∧ s.IsFirstLeast (fun c => distance px c.px) b := by
  rcases foldl_improve distance px s.buckets ⟨s.buckets.headD ⟨0, 0⟩, ⊤⟩ with ⟨hfound, hall⟩ | h
  · exact .inl ⟨hfound, fun c hc => top_le_iff.mp (hall c hc)⟩
  · exact .inr h

section

variable {α : Type} [LinearOrder α] {distance : Bucket → α} {s : Spacing} {b : Bucket}

theorem mem_of_isFirstLeast (h : s.IsFirstLeast distance b) : b ∈ s.buckets := by
  obtain ⟨before, after, hsplit, -, -⟩ := h
  rw [hsplit]
  exact List.mem_append_right before List.mem_cons_self

theorem le_of_isFirstLeast (h : s.IsFirstLeast distance b) {c : Bucket} (hc : c ∈ s.buckets) :
    distance b ≤ distance c := by
  obtain ⟨before, after, hsplit, hbefore, hafter⟩ := h
  rw [hsplit] at hc
  rcases List.mem_append.mp hc with hc | hc
  · exact (hbefore c hc).le
  · rcases List.mem_cons.mp hc with rfl | hc
    · exact le_rfl
    · exact hafter c hc

end

theorem mem_nearestBy {s : Spacing} (hne : s.buckets ≠ []) :
    (s.nearestBy (.ofDistance distance) px).bucket ∈ s.buckets := by
  rcases nearestBy_ofDistance distance px s with ⟨hfound, -⟩ | ⟨b, hfound, -, hleast⟩
  · obtain ⟨b, rest, hsplit⟩ := List.exists_cons_of_ne_nil hne
    rw [hfound, hsplit]
    exact List.mem_cons_self
  · rw [hfound]
    exact mem_of_isFirstLeast hleast

theorem nearestBy_le_iff (s : Spacing) {limit : WithTop ℚ} (hlimit : limit < ⊤) :
    (s.nearestBy (.ofDistance distance) px).distance ≤ limit ↔
      ∃ b ∈ s.buckets, distance px b.px ≤ limit := by
  rcases nearestBy_ofDistance distance px s with ⟨hfound, hall⟩ | ⟨b, hfound, -, hleast⟩
  · rw [hfound]
    constructor
    · intro hle
      exact absurd hle hlimit.not_ge
    · rintro ⟨c, hc, hle⟩
      rwa [hall c hc] at hle
  · rw [hfound]
    constructor
    · intro hle
      exact ⟨b, mem_of_isFirstLeast hleast, hle⟩
    · rintro ⟨c, hc, hle⟩
      exact (le_of_isFirstLeast hleast hc).trans hle

theorem nearestBy_congr {distance other : Float → Float → WithTop ℚ} (s : Spacing)
    (h : ∀ b ∈ s.buckets, distance px b.px = other px b.px) :
    s.nearestBy (.ofDistance distance) px = s.nearestBy (.ofDistance other) px := by
  refine List.foldl_ext _ _ _ fun best b hb => ?_
  rw [improve_ofDistance, improve_ofDistance, h b hb]

end

/-! ## Distances in floats -/

section

variable (px : Float)

theorem extent_of_some {x : Float} {q : ℚ} (h : exactValue? x = some q) : extent x = q := by
  rw [extent, h]

theorem extent_of_none {x : Float} (h : exactValue? x = none) : extent x = ⊤ := by
  rw [extent, h]

theorem exactValue?_infinity : exactValue? (1 / 0) = none := by
  rw [exactValue?, Binary.ofFloat?_eq, unpack_infinity]
  rfl

theorem exactValue?_abs_of_none {x : Float} (h : exactValue? x = none) :
    exactValue? x.abs = none := by
  rw [exactValue?, Binary.ofFloat?_eq]
  rcases unpack_abs_cases h with hunpack | hunpack
  · rw [hunpack]
    rfl
  · rw [hunpack]
    rfl

/-- What a scan in floats has for its best distance: an infinite one until a bucket is found. -/
def IsReach (d : Float) : Prop := d = 1 / 0 ∨ ∃ q, exactValue? d = some q

theorem IsReach.eq_infinity {d : Float} (hd : IsReach d) (h : extent d = ⊤) : d = 1 / 0 := by
  rcases hd with hd | ⟨q, hq⟩
  · exact hd
  · rw [extent_of_some hq] at h
    exact absurd h WithTop.coe_ne_top

theorem abs_lt_iff_extent {x d : Float} (hd : IsReach d) : x.abs < d ↔ extent x.abs < extent d := by
  cases hx : exactValue? x with
  | none =>
    rw [extent_of_none (exactValue?_abs_of_none hx)]
    exact iff_of_false (not_abs_lt hx d) not_top_lt
  | some p =>
    have habs := exactValue?_abs hx
    rw [extent_of_some habs]
    rcases hd with rfl | ⟨q, hq⟩
    · rw [extent_of_none exactValue?_infinity]
      exact iff_of_true (lt_infinity habs) (WithTop.coe_lt_top _)
    · rw [extent_of_some hq, WithTop.coe_lt_coe]
      exact float_lt_iff habs hq

theorem isReach_of_abs_lt {x d : Float} (h : x.abs < d) : IsReach x.abs := by
  cases hx : exactValue? x with
  | none => exact absurd h (not_abs_lt hx d)
  | some p => exact .inr ⟨_, exactValue?_abs hx⟩

theorem exactValue?_tolerance : exactValue? tolerance = some 2 := by decide +kernel

theorem le_tolerance_iff {d : Float} (hd : IsReach d) :
    d ≤ tolerance ↔ extent d ≤ ((2 : ℚ) : WithTop ℚ) := by
  rcases hd with rfl | ⟨q, hq⟩
  · rw [extent_of_none exactValue?_infinity]
    have hinfinite : ¬ (1 / 0 : Float) ≤ tolerance := by decide +kernel
    exact iff_of_false hinfinite (WithTop.coe_lt_top _).not_ge
  · rw [extent_of_some hq, WithTop.coe_le_coe]
    exact float_le_iff hq exactValue?_tolerance

theorem exact_improve {best : Match Float} (hbest : IsReach best.distance) (b : Bucket) :
    (improve .rounded px best b).exact =
        improve (.ofDistance roundedDistance) px best.exact b ∧
      IsReach (improve .rounded px best b).distance := by
  have hstep : improve .rounded px best b =
      if (px - b.px).abs < best.distance then ⟨b, (px - b.px).abs⟩ else best := by
    simp only [improve, Gauge.rounded, decide_eq_true_eq]
  have hextent : (px - b.px).abs < best.distance ↔
      roundedDistance px b.px < best.exact.distance := abs_lt_iff_extent hbest
  rw [hstep, improve_ofDistance]
  by_cases hnearer : (px - b.px).abs < best.distance
  · rw [if_pos hnearer, if_pos (hextent.mp hnearer)]
    exact ⟨rfl, isReach_of_abs_lt hnearer⟩
  · rw [if_neg hnearer, if_neg (hextent.not.mp hnearer)]
    exact ⟨rfl, hbest⟩

theorem exact_foldl_improve (buckets : List Bucket) (best : Match Float)
    (hbest : IsReach best.distance) :
    (buckets.foldl (improve .rounded px) best).exact =
        buckets.foldl (improve (.ofDistance roundedDistance) px) best.exact ∧
      IsReach (buckets.foldl (improve .rounded px) best).distance := by
  induction buckets generalizing best with
  | nil => exact ⟨rfl, hbest⟩
  | cons b rest ih =>
    obtain ⟨hstep, hreach⟩ := exact_improve px hbest b
    obtain ⟨hrun, hend⟩ := ih _ hreach
    rw [hstep] at hrun
    exact ⟨hrun, hend⟩

end

namespace Spacing

section

variable (s : Spacing) (px : Float)

/-- **The search in floats is the one with rounded distances**, whatever the sizes are. -/
theorem nearest_rounded :
    (s.nearest px).exact = s.nearestBy (.ofDistance roundedDistance) px ∧
      IsReach (s.nearest px).distance := by
  obtain ⟨hrun, hreach⟩ :=
    exact_foldl_improve px s.buckets ⟨s.buckets.headD ⟨0, 0⟩, 1 / 0⟩ (.inl rfl)
  refine ⟨hrun.trans ?_, hreach⟩
  rw [Match.exact, extent_of_none exactValue?_infinity]
  rfl

-- far above a scale every difference is rounded to the size itself, so that the first bucket wins
example : standard.nearest 1e20 = ⟨⟨0, 0⟩, 1e20⟩ := by decide +kernel

theorem fitBy?_eq {δ : Type} (g : Gauge δ) :
    s.fitBy? g px =
      if (!px.isFinite || px < 0) = true then none
      else if g.isTolerable (s.nearestBy g px).distance = true then some (s.nearestBy g px)
      else none := rfl

theorem fit_rounded :
    (s.fit? px).map Match.exact = s.fitBy? (.ofDistance roundedDistance) px := by
  obtain ⟨hrun, hreach⟩ := s.nearest_rounded px
  have hlimit : Gauge.rounded.isTolerable (s.nearest px).distance =
      (Gauge.ofDistance roundedDistance).isTolerable (s.nearest px).exact.distance :=
    decide_eq_decide.mpr (le_tolerance_iff hreach)
  rw [fit?, fitBy?_eq, fitBy?_eq, ← hrun, ← hlimit, ← nearest]
  split
  · rfl
  · split
    · rfl
    · rfl

theorem nearestBy_of_top {distance : Float → Float → WithTop ℚ}
    (h : ∀ b ∈ s.buckets, distance px b.px = ⊤) :
    s.nearestBy (.ofDistance distance) px = ⟨s.buckets.headD ⟨0, 0⟩, ⊤⟩ := by
  rcases nearestBy_ofDistance distance px s with ⟨hfound, -⟩ | ⟨b, -, hlt, hleast⟩
  · exact hfound
  · exact absurd (h b (mem_of_isFirstLeast hleast)) hlt.ne

theorem nearest_of_top (h : ∀ b ∈ s.buckets, roundedDistance px b.px = ⊤) :
    s.nearest px = ⟨s.buckets.headD ⟨0, 0⟩, 1 / 0⟩ := by
  obtain ⟨hrun, hreach⟩ := s.nearest_rounded px
  rw [s.nearestBy_of_top px h, Match.exact, Match.mk.injEq] at hrun
  obtain ⟨hbucket, hdistance⟩ := hrun
  rw [← hbucket, ← hreach.eq_infinity hdistance]

end

end Spacing

end SceneMarkup
