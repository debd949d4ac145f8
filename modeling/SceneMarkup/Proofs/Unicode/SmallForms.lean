import SceneMarkup.Proofs.Unicode.Case

/-!
# Small forms stay small

No character has an empty form, and the small form of a character begins with a character that is
small itself (`small_eq_self`): no run of the table moves a character into a run, its own included.
-/

namespace SceneMarkup.Unicode

/-! ## Forms are not empty -/

theorem mapCase_ne_nil {runs : List CaseRun} {sequences : List (Nat × List Nat)}
    (hsequences : ∀ s ∈ sequences, s.2 ≠ []) (c : Char) : mapCase runs sequences c ≠ [] := by
  unfold mapCase
  split
  · rename_i codes hlookup
    obtain ⟨l₁, l₂, hmem, -⟩ := List.lookup_eq_some_iff.mp hlookup
    have hcodes : codes ≠ [] := hsequences (c.toNat, codes) (by rw [hmem]; simp)
    simpa using hcodes
  · split
    · exact List.cons_ne_nil _ _
    · exact List.cons_ne_nil _ _

theorem small_ne_nil (c : Char) : small c ≠ [] := mapCase_ne_nil (by decide) c

/-! ## Runs that miss each other -/

/-- A run moves none of its characters into another one: the intervals lie apart, or the steps of
the one keep it off those of the other. The first two cases settle nearly all pairs of runs, and are
written for the kernel. -/
def CaseRun.misses (r q : CaseRun) : Bool :=
  Nat.blt (r.last + r.offset).toNat q.first || Nat.blt q.last (r.first + r.offset).toNat ||
    (r.first == r.last || r.stride % q.stride == 0) &&
      (r.first + r.offset - q.first) % q.stride != 0

theorem CaseRun.contains_eq_false_of_misses {r q : CaseRun} (h : r.misses q = true) {n m : Nat}
    (hn : r.contains n = true) (hm : (m : Int) = n + r.offset) : q.contains m = false := by
  simp only [contains, Bool.and_eq_true, decide_eq_true_eq, beq_iff_eq] at hn
  obtain ⟨⟨hfirst, hlast⟩, hstep⟩ := hn
  rw [← Bool.not_eq_true]
  intro hq
  simp only [contains, Bool.and_eq_true, decide_eq_true_eq, beq_iff_eq] at hq
  obtain ⟨⟨hqfirst, hqlast⟩, hqstep⟩ := hq
  simp only [misses, Bool.or_eq_true, Bool.and_eq_true, Nat.blt_eq, beq_iff_eq, bne_iff_ne] at h
  rcases h with (hbelow | habove) | ⟨hstride, hoff⟩
  · omega
  · omega
  · -- both characters are some steps from where their runs begin
    have hmoved : (q.stride : Int) ∣ m - q.first := by
      rw [← Int.natCast_sub hqfirst]
      exact Int.natCast_dvd_natCast.mpr (Nat.dvd_of_mod_eq_zero hqstep)
    have hstart : (q.stride : Int) ∣ n - r.first := by
      rcases hstride with hsingle | hstride
      · rw [show (n : Int) - r.first = 0 by omega]
        exact Int.dvd_zero _
      · rw [← Int.natCast_sub hfirst]
        exact Int.natCast_dvd_natCast.mpr
          (Nat.dvd_trans (Nat.dvd_of_mod_eq_zero hstride) (Nat.dvd_of_mod_eq_zero hstep))
    have hdvd := Int.dvd_sub hmoved hstart
    rw [show (m : Int) - q.first - (n - r.first) = r.first + r.offset - q.first by omega] at hdvd
    exact hoff (Int.emod_eq_zero_of_dvd hdvd)

theorem smallRuns_miss : (smallRuns.all fun r => smallRuns.all r.misses) = true := by
  decide +kernel

theorem smallRuns_avoid_sequences :
    ∀ s ∈ smallSequences, avoids smallRuns [] (s.1, s.1) = true := by
  decide +kernel

theorem small_head_sequence :
    ∀ s ∈ smallSequences, ∀ n ∈ s.2.head?, small (Char.ofNat n) = [Char.ofNat n] := by
  decide +kernel

/-! ## The first character of a small form -/

theorem mapCase_eq_self {runs : List CaseRun} {sequences : List (Nat × List Nat)} {c : Char}
    (hruns : ∀ r ∈ runs, r.contains c.toNat = false) (hsequences : ∀ s ∈ sequences, s.1 ≠ c.toNat) :
    mapCase runs sequences c = [c] := by
  have hlookup : sequences.lookup c.toNat = none :=
    List.lookup_eq_none_iff.mpr fun s hs => by simpa using (hsequences s hs).symm
  have hfind : runs.find? (·.contains c.toNat) = none :=
    List.find?_eq_none.mpr fun r hr => by simp [hruns r hr]
  rw [mapCase, hlookup, hfind]

theorem small_moved {r : CaseRun} (hr : r ∈ smallRuns) {n : Nat} (hn : r.contains n = true) :
    small (Char.ofNat (n + r.offset).toNat) = [Char.ofNat (n + r.offset).toNat] := by
  generalize hm : (n + r.offset).toNat = m
  by_cases hpos : 0 < (Char.ofNat m).toNat
  · have hmoved := toNat_ofNat_eq hpos
    apply mapCase_eq_self
    · intro q hq
      have hmiss : r.misses q = true :=
        List.all_eq_true.mp (List.all_eq_true.mp smallRuns_miss r hr) q hq
      exact CaseRun.contains_eq_false_of_misses hmiss hn (by omega)
    · intro s hs heq
      have havoids := smallRuns_avoid_sequences s hs
      simp only [avoids, Bool.and_eq_true, List.all_eq_true, Bool.or_eq_true, decide_eq_true_eq]
        at havoids
      simp only [CaseRun.contains, Bool.and_eq_true, decide_eq_true_eq] at hn
      have hout := havoids.1 r hr
      omega
  · -- no code point of a character: the null character stands for it
    have hzero : (Char.ofNat m).toNat = 0 := by omega
    rw [← Char.ofNat_toNat (Char.ofNat m), hzero]
    decide

theorem small_eq_self {c d : Char} {rest : List Char} (h : small c = d :: rest) :
    small d = [d] := by
  unfold small mapCase at h
  split at h
  · rename_i codes hlookup
    obtain ⟨l₁, l₂, hmem, -⟩ := List.lookup_eq_some_iff.mp hlookup
    obtain ⟨n, codes, rfl, rfl, -⟩ := List.map_eq_cons_iff.mp h
    exact small_head_sequence (c.toNat, n :: codes) (by rw [hmem]; simp) n rfl
  · rename_i hlookup
    split at h
    · rename_i r hfind
      cases h
      have hcontains := List.find?_some hfind
      exact small_moved (List.mem_of_find?_eq_some hfind) hcontains
    · rename_i hfind
      cases h
      rw [small, mapCase, hlookup, hfind]

end SceneMarkup.Unicode
