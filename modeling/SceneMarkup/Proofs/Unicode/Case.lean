import SceneMarkup.Unicode.Words

/-!
# Case mappings make no blanks

A character in an interval of code points that no run of a case table ends in, and no sequence has a
member in, comes from itself alone (`eq_of_mem_mapCase`). The blanks lie in such intervals of both
tables, so the capital and the small form of a character hold a blank only if it is one.
-/

namespace SceneMarkup.Unicode

/-- The intervals of code points that the blanks fill. -/
def blankRanges : List (Nat × Nat) :=
  [(0x09, 0x0D), (0x20, 0x20), (0x85, 0x85), (0xA0, 0xA0), (0x1680, 0x1680), (0x2000, 0x200A),
    (0x2028, 0x2029), (0x202F, 0x202F), (0x205F, 0x205F), (0x3000, 0x3000)]

theorem exists_blankRange {c : Char} (h : isBlank c = true) :
    ∃ r ∈ blankRanges, r.1 ≤ c.toNat ∧ c.toNat ≤ r.2 := by
  simp only [isBlank, Bool.or_eq_true, Bool.and_eq_true, decide_eq_true_eq, beq_iff_eq] at h
  simp only [blankRanges, List.mem_cons, List.not_mem_nil, or_false, exists_eq_or_imp,
    exists_eq_left]
  omega

/-- Whether a case table maps no other character into an interval of code points. -/
def avoids (runs : List CaseRun) (sequences : List (Nat × List Nat)) (r : Nat × Nat) : Bool :=
  runs.all (fun run => run.last + run.offset < r.1 || r.2 < run.first + run.offset) &&
    sequences.all fun s => s.2.all fun n => n < r.1 || r.2 < n

theorem toNat_ofNat_eq {n : Nat} (h : 0 < (Char.ofNat n).toNat) : (Char.ofNat n).toNat = n := by
  by_cases hn : n.isValidChar
  · rw [Char.ofNat, dif_pos hn]
    rfl
  · simp [Char.ofNat, hn, Char.toNat] at h

theorem eq_of_mem_mapCase {runs : List CaseRun} {sequences : List (Nat × List Nat)} {r : Nat × Nat}
    (havoids : avoids runs sequences r = true) (hpos : 0 < r.1) {c d : Char}
    (hd : d ∈ mapCase runs sequences c) (hlow : r.1 ≤ d.toNat) (hhigh : d.toNat ≤ r.2) : d = c := by
  simp only [avoids, Bool.and_eq_true, List.all_eq_true, Bool.or_eq_true, decide_eq_true_eq]
    at havoids
  obtain ⟨hruns, hsequences⟩ := havoids
  -- a form out of either table lies off the interval; what is in neither is its own form
  unfold mapCase at hd
  split at hd
  · rename_i codes hlookup
    obtain ⟨n, hn, rfl⟩ := List.mem_map.mp hd
    obtain ⟨l₁, l₂, hmem, -⟩ := List.lookup_eq_some_iff.mp hlookup
    have hout := hsequences (c.toNat, codes) (by rw [hmem]; simp) n hn
    have heq := toNat_ofNat_eq (n := n) (by omega)
    omega
  · split at hd
    · rename_i run hfind
      have hout := hruns run (List.mem_of_find?_eq_some hfind)
      have hin := List.find?_some hfind
      simp only [CaseRun.contains, Bool.and_eq_true, decide_eq_true_eq] at hin
      rw [List.mem_singleton.mp hd] at hlow hhigh
      have heq := toNat_ofNat_eq (n := (c.toNat + run.offset).toNat) (by omega)
      omega
    · exact List.mem_singleton.mp hd

theorem blankRanges_pos : ∀ r ∈ blankRanges, 0 < r.1 := by decide

theorem capital_avoids_blanks :
    ∀ r ∈ blankRanges, avoids capitalRuns capitalSequences r = true := by
  decide +kernel

theorem small_avoids_blanks : ∀ r ∈ blankRanges, avoids smallRuns smallSequences r = true := by
  decide +kernel

theorem isBlank_of_mem_mapCase {runs : List CaseRun} {sequences : List (Nat × List Nat)}
    (havoids : ∀ r ∈ blankRanges, avoids runs sequences r = true) {c d : Char}
    (hc : isBlank c = false) (hd : d ∈ mapCase runs sequences c) : isBlank d = false := by
  rw [← Bool.not_eq_true]
  intro hblank
  obtain ⟨r, hr, hlow, hhigh⟩ := exists_blankRange hblank
  rw [eq_of_mem_mapCase (havoids r hr) (blankRanges_pos r hr) hd hlow hhigh, hc] at hblank
  cases hblank

theorem isBlank_of_mem_capital {c d : Char} (hc : isBlank c = false) (hd : d ∈ capital c) :
    isBlank d = false := isBlank_of_mem_mapCase capital_avoids_blanks hc hd

theorem isBlank_of_mem_small {c d : Char} (hc : isBlank c = false) (hd : d ∈ small c) :
    isBlank d = false := isBlank_of_mem_mapCase small_avoids_blanks hc hd

end SceneMarkup.Unicode
