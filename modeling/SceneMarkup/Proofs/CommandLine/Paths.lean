import Mathlib.Tactic.SplitIfs
import SceneMarkup.CommandLine.FileSystem
import SceneMarkup.Proofs.Outcomes

/-!
# Paths to files

A file can be written where a path leads by its last name (`LeadsTo`, `leadsTo_of_target`). Putting it
there changes no other file (`fileAt?_put`) and leaves every way through the system open
(`follow_put`), so its path leads to it afterwards (`read_put`). Where a path leads is settled by the
places of the files alone (`SamePlaces.target`).
-/

namespace SceneMarkup.CommandLine

namespace FileSystem

variable {fs : FileSystem} {content : ByteArray} {place next : List String} {name path : String}

/-! ## Where a path leads to a file -/

/-- Where a file stands, or can be put, that a path leads to: the names before the last one lead to a
directory, and the last one is a name that no directory in it has. -/
def LeadsTo (fs : FileSystem) (path : String) (place : List String) : Prop :=
  ∃ start above dir name, fs.start path = .ok start ∧ pathNames path = above ++ [name] ∧
    fs.follow start above = .ok dir ∧ fs.isDirectory dir = true ∧ name ∉ ["", ".", ".."] ∧
    isTooLong name = false ∧ fs.isDirectory (dir ++ [name]) = false ∧ place = dir ++ [name]

theorem dropWhile_pathNames {above : List String} (hnames : pathNames path = above ++ [name])
    (hname : name ≠ "") : (pathNames path).reverse.dropWhile (· = "") = name :: above.reverse := by
  rw [hnames, List.reverse_append, List.reverse_singleton, List.singleton_append,
    List.dropWhile_cons_of_neg (by simpa using hname)]

theorem leadsTo_of_target (h : fs.target path = .ok place) : fs.LeadsTo path place := by
  obtain ⟨start, hstart, hrest⟩ := exists_of_bind_eq_ok h
  rcases List.eq_nil_or_concat (pathNames path) with hnil | ⟨above, last, hnames⟩
  · rw [hnil] at hrest
    cases hrest
  · rw [List.concat_eq_append] at hnames
    by_cases hlast : last = ""
    · -- the path ends at a separator
      subst hlast
      rw [hnames] at hrest
      split at hrest
      · cases hrest
      · obtain ⟨dir, -, hrest⟩ := exists_of_bind_eq_ok hrest
        split_ifs at hrest with hdirectory hproper
        exact absurd (by simp) hproper
    · simp only [dropWhile_pathNames hnames hlast, List.reverse_reverse] at hrest
      obtain ⟨dir, hfollow, hrest⟩ := exists_of_bind_eq_ok hrest
      split_ifs at hrest with hdirectory hproper hshort hfree
      cases hrest
      simp only [Bool.or_eq_true, decide_eq_true_eq, not_or] at hproper
      exact ⟨start, above, dir, last, hstart, hnames, hfollow, by simpa using hdirectory,
        by simp [hlast, hproper], by simpa using hshort, by simpa using hfree, rfl⟩

theorem target_of_leadsTo (h : fs.LeadsTo path place) : fs.target path = .ok place := by
  obtain ⟨start, above, dir, name, hstart, hnames, hfollow, hdirectory, hproper, hshort, hfree,
    rfl⟩ := h
  simp only [List.mem_cons, List.not_mem_nil, or_false, not_or] at hproper
  obtain ⟨hempty, hdot, hdots⟩ := hproper
  have hlast : (pathNames path).getLast? = some name := by
    rw [hnames, List.getLast?_append, List.getLast?_singleton, Option.some_or]
  simp [target, hstart, dropWhile_pathNames hnames hempty, hlast, hfollow, hdirectory, hempty, hdot,
    hdots, hshort, hfree, bind, Except.bind]

theorem LeadsTo.unique {other : List String} (h : fs.LeadsTo path place)
    (h' : fs.LeadsTo path other) : place = other :=
  Except.ok.inj ((target_of_leadsTo h).symm.trans (target_of_leadsTo h'))

/-! ## Putting a file -/

theorem find?_putFile (place other : List String) (content : ByteArray) (files : List File) :
    ((putFile place content files).find? fun f => f.path = other).map (·.content) =
      if other = place then some content
      else (files.find? fun f => f.path = other).map (·.content) := by
  induction files with
  | nil => by_cases h : place = other <;> simp [putFile, h, Ne.symm]
  | cons f rest ih =>
    unfold putFile
    by_cases hpath : f.path = place
    · rw [if_pos hpath]
      by_cases hother : place = other <;> simp [hpath, hother, Ne.symm]
    · rw [if_neg hpath]
      by_cases hother : f.path = other
      · have hne : other ≠ place := fun heq => hpath (hother.trans heq)
        simp [hother, hne]
      · simp only [List.find?_cons, hother, decide_false, ih]

theorem fileAt?_put (fs : FileSystem) (place other : List String) (content : ByteArray) :
    (fs.put place content).fileAt? other = if other = place then some content else fs.fileAt? other :=
  find?_putFile place other content fs.files

theorem mem_map_path_putFile {p : List String} {files : List File} (h : p ∈ files.map (·.path))
    (place : List String) (content : ByteArray) :
    p ∈ (putFile place content files).map (·.path) := by
  induction files with
  | nil => cases h
  | cons f rest ih =>
    unfold putFile
    split
    · rename_i hpath
      simpa [hpath] using h
    · rw [List.map_cons] at h ⊢
      exact (List.mem_cons.mp h).elim (fun h => h ▸ .head _) fun h => .tail _ (ih h)

theorem mem_places_put {p : List String} (h : p ∈ fs.places) (place : List String)
    (content : ByteArray) : p ∈ (fs.put place content).places :=
  List.mem_append.mpr ((List.mem_append.mp h).imp_left (mem_map_path_putFile · place content))

theorem isDirectory_put {dir : List String} (h : fs.isDirectory dir = true) (place : List String)
    (content : ByteArray) : (fs.put place content).isDirectory dir = true := by
  rw [isDirectory, Bool.or_eq_true] at h ⊢
  refine h.imp_right fun hany => ?_
  obtain ⟨p, hp, hbelow⟩ := List.any_eq_true.mp hany
  exact List.any_eq_true.mpr ⟨p, mem_places_put hp place content, hbelow⟩

/-! ## Following names -/

theorem step_eq_ok_iff : fs.step place name = .ok next ↔
    fs.isDirectory place = true ∧
      if name = "" ∨ name = "." then next = place
      else if name = ".." then next = place.dropLast
      else isTooLong name = false ∧ next = place ++ [name] ∧
        (next ∈ fs.places ∨ fs.isDirectory next = true) := by
  unfold step
  cases fs.isDirectory place with
  | false => simp
  | true =>
    simp only [Bool.not_true, Bool.false_eq_true, if_false, true_and, Bool.or_eq_true,
      decide_eq_true_eq]
    split_ifs with hstays hup hlong hthere
    · simp [eq_comm]
    · simp [eq_comm]
    · simp [hlong]
    · simp only [Except.ok.injEq]
      constructor
      · rintro rfl
        exact ⟨by simpa using hlong, rfl, by simpa using hthere⟩
      · exact fun h => h.2.1.symm
    · simp only [false_iff]
      rintro ⟨-, rfl, h⟩
      exact hthere (by simpa using h)

theorem step_put (h : fs.step place name = .ok next) (other : List String) (content : ByteArray) :
    (fs.put other content).step place name = .ok next := by
  rw [step_eq_ok_iff] at h ⊢
  refine ⟨isDirectory_put h.1 other content, ?_⟩
  have hnext := h.2
  split_ifs at hnext ⊢
  · exact hnext
  · exact hnext
  · exact ⟨hnext.1, hnext.2.1, hnext.2.2.imp (mem_places_put · other content)
      (isDirectory_put · other content)⟩

/-- Every way through the system stays open. -/
theorem follow_put {names : List String} (h : fs.follow place names = .ok next)
    (other : List String) (content : ByteArray) :
    (fs.put other content).follow place names = .ok next := by
  induction names generalizing place with
  | nil => exact h
  | cons name rest ih =>
    unfold follow at h ⊢
    rw [List.foldlM_cons] at h ⊢
    obtain ⟨middle, hstep, hrest⟩ := exists_of_bind_eq_ok h
    rw [step_put hstep]
    exact ih hrest

theorem follow_concat (fs : FileSystem) (place : List String) (names : List String) (name : String) :
    fs.follow place (names ++ [name]) = fs.follow place names >>= fun next => fs.step next name := by
  unfold follow
  rw [List.foldlM_append]
  simp only [List.foldlM_cons, List.foldlM_nil, bind_pure]

theorem follow_names {start above dir : List String} (hnames : pathNames path = above ++ [name])
    (hfollow : fs.follow start above = .ok dir) (hdirectory : fs.isDirectory dir = true)
    (hproper : name ∉ ["", ".", ".."]) (hshort : isTooLong name = false)
    (hthere : dir ++ [name] ∈ fs.places) :
    fs.follow start (pathNames path) = .ok (dir ++ [name]) := by
  simp only [List.mem_cons, List.not_mem_nil, or_false, not_or] at hproper
  obtain ⟨hempty, hdot, hdots⟩ := hproper
  rw [hnames, follow_concat, hfollow]
  refine step_eq_ok_iff.mpr ⟨hdirectory, ?_⟩
  rw [if_neg (by simp [hempty, hdot]), if_neg hdots]
  exact ⟨hshort, rfl, .inl hthere⟩

theorem read_put (h : fs.LeadsTo path place) (hplain : fs.specialAt? place = none)
    (content : ByteArray) : (fs.put place content).read path = .ok content := by
  obtain ⟨start, above, dir, name, hstart, hnames, hfollow, hdirectory, hproper, hshort, -, rfl⟩ := h
  have hput : (fs.put (dir ++ [name]) content).fileAt? (dir ++ [name]) = some content := by
    rw [fileAt?_put, if_pos rfl]
  have hthere : dir ++ [name] ∈ (fs.put (dir ++ [name]) content).places := by
    obtain ⟨f, hf, -⟩ := Option.map_eq_some_iff.mp hput
    have hpath : f.path = dir ++ [name] := by simpa using List.find?_some hf
    exact List.mem_append_left _ (List.mem_map.mpr ⟨f, List.mem_of_find?_eq_some hf, hpath⟩)
  have hfollowed := follow_names hnames (follow_put hfollow _ content)
    (isDirectory_put hdirectory _ content) hproper hshort hthere
  have hstart' : (fs.put (dir ++ [name]) content).start path = .ok start := hstart
  have hplain' : (fs.put (dir ++ [name]) content).specialAt? (dir ++ [name]) = none := hplain
  simp only [read, hstart', bind, Except.bind, hfollowed, hplain', hput]

theorem read_special {special : SpecialFile} (h : fs.LeadsTo path place)
    (hspecial : fs.specialAt? place = some special) : fs.read path = special.found := by
  obtain ⟨start, above, dir, name, hstart, hnames, hfollow, hdirectory, hproper, hshort, -, rfl⟩ := h
  have hpath : special.path = dir ++ [name] := by simpa using List.find?_some hspecial
  have hthere : dir ++ [name] ∈ fs.places := List.mem_append_right _
    (List.mem_map.mpr ⟨special, List.mem_of_find?_eq_some hspecial, hpath⟩)
  have hfollowed := follow_names hnames hfollow hdirectory hproper hshort hthere
  simp only [read, hstart, bind, Except.bind, hfollowed, hspecial]

/-! ## Files of the same places -/

/-- The files of one system stand where those of another do. -/
structure SamePlaces (fs' fs : FileSystem) : Prop where
  working : fs'.working = fs.working
  directories : fs'.directories = fs.directories
  specials : fs'.specials = fs.specials
  files : fs'.files.map (·.path) = fs.files.map (·.path)

namespace SamePlaces

variable {fs' : FileSystem}

theorem places (h : fs'.SamePlaces fs) : fs'.places = fs.places := by
  rw [FileSystem.places, FileSystem.places, h.files, h.specials]

theorem isDirectory (h : fs'.SamePlaces fs) (place : List String) :
    fs'.isDirectory place = fs.isDirectory place := by
  rw [FileSystem.isDirectory, FileSystem.isDirectory, h.places, h.working, h.directories]

theorem follow (h : fs'.SamePlaces fs) : fs'.follow = fs.follow := by
  have hstep : fs'.step = fs.step := by
    funext place name
    rw [step, step, h.places, h.isDirectory, h.isDirectory]
  funext place names
  rw [FileSystem.follow, FileSystem.follow, hstep]

theorem target (h : fs'.SamePlaces fs) (path : String) : fs'.target path = fs.target path := by
  simp only [FileSystem.target, start, h.working, h.follow, h.isDirectory]

theorem leadsTo (h : fs'.SamePlaces fs) (hplace : fs.LeadsTo path place) : fs'.LeadsTo path place :=
  leadsTo_of_target ((h.target path).trans (target_of_leadsTo hplace))

theorem specialAt? (h : fs'.SamePlaces fs) (place : List String) :
    fs'.specialAt? place = fs.specialAt? place := by
  rw [FileSystem.specialAt?, h.specials]
  rfl

end SamePlaces

end FileSystem

end SceneMarkup.CommandLine
