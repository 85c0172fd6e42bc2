import CrossBuild.Proofs.Files.Way
import CrossBuild.Proofs.Machine.Perform

/-!
# Making directories

A directory that was made is there: its path leads through the directories that
were there before, and one more.  Making it with its parents comes down to
that, and neither takes away a directory or a link (`FileTree.Keeps`); writing
and copying files do not either.

What may already be there when a directory is asked for is another matter.
`ensure` is content with anything, so a path that denotes a file is left as it
is, and so is the empty path, which denotes nothing (`Machine.CanBeDirectory`).
-/
namespace CrossBuild

namespace FileTree

variable {t t' : FileTree} {directory : Place} {p : Path}

/-! ## 1. Slots -/

/-- A slot is in a directory that a way leads to, and the path goes on with its name. -/
structure IsSlot (t : FileTree) (directory : Place) (p : Path) (parent : Place) (name : String) :
    Prop where
  /-- The way to the slot's directory. -/
  way : ∃ start before after, t.Begins directory p start ∧ t.Way linkLimit start before parent ∧
    p.segments = before ++ name :: after ∧ ∀ segment ∈ after, segment = ""
  parent : t.lookup? parent = some .directory
  ne_empty : name ≠ ""
  ne_here : name ≠ "."
  ne_up : name ≠ ".."

/-- The last segment that is not empty, and those around it. -/
theorem segments_of_dropWhile {segments tail : List String} {name : String}
    (h : segments.reverse.dropWhile (· == "") = name :: tail) :
    (∃ after, segments = tail.reverse ++ name :: after ∧ ∀ segment ∈ after, segment = "") ∧
      name ≠ "" := by
  constructor
  · refine ⟨(segments.reverse.takeWhile (· == "")).reverse, ?_, fun segment hmem => ?_⟩
    · have hsplit := List.takeWhile_append_dropWhile (p := (· == "")) (l := segments.reverse)
      rw [h] at hsplit
      simpa using (congrArg List.reverse hsplit).symm
    · have hall := List.all_takeWhile (p := (· == "")) (l := segments.reverse)
      simpa using List.all_eq_true.mp hall segment (List.mem_reverse.mp hmem)
  · rintro rfl
    have hhead := List.head?_dropWhile_not (· == "") segments.reverse
    simp [h] at hhead

theorem isSlot_of_slot {parent : Place} {name : String} {separated : Bool}
    (h : t.slot directory p = .ok (parent, .named name separated)) :
    t.IsSlot directory p parent name := by
  rw [slot] at h
  split at h
  · cases h
  · rename_i q hwalk
    split at h
    · rename_i hq
      cases hreversed : p.segments.reverse.dropWhile (· == "") with
      | nil => simp [hreversed] at h
      | cons s tail =>
        rw [hreversed] at hwalk
        -- Without the blanks that follow it, the last segment has to be a name.
        by_cases hspecial : s = "." ∨ s = ".."
        · simp [hreversed, hspecial] at h
        · obtain ⟨rfl, rfl, -⟩ : q = parent ∧ s = name ∧ _ := by
            simpa [hreversed, hspecial] using h
          obtain ⟨⟨after, hsegments, hafter⟩, hne⟩ := segments_of_dropWhile hreversed
          obtain ⟨start, hbegins, hwalk⟩ := walkFrom_eq_ok_iff.mp hwalk
          exact ⟨⟨start, _, after, hbegins, way_of_walk hwalk hq, hsegments, hafter⟩, hq,
            hne, fun hhere => hspecial (.inl hhere), fun hup => hspecial (.inr hup)⟩
    · cases h
    · cases h

/-! ## 2. One directory -/

theorem ne_root_of_lookup? {place : Place} (h : t.lookup? place ≠ some .directory) :
    place ≠ [] := by
  rintro rfl
  exact h t.lookup?_nil

/-- A directory is made in a free slot. -/
theorem makeDirectory_eq_ok (h : t.makeDirectory directory p = .ok t') :
    ∃ parent name, t.IsSlot directory p parent name ∧ IsName name ∧
      t.lookup? (parent ++ [name]) = none ∧ t' = t.put (parent ++ [name]) .directory := by
  rw [makeDirectory] at h
  split at h
  · cases h
  · cases h
  · rename_i parent name separated hslot
    have hisSlot := isSlot_of_slot hslot
    simp only at h
    split at h
    · cases h
    split at h
    · cases h
    rename_i hsize hfree
    cases h
    exact ⟨parent, name, hisSlot,
      ⟨hisSlot.ne_empty, hisSlot.ne_here, hisSlot.ne_up, Nat.le_of_not_lt hsize⟩,
      by simpa using hfree, rfl⟩

/-- A new directory stands where nothing stood, and the path that denoted nothing
denotes it. -/
theorem makeDirectory_ok (h : t.makeDirectory directory p = .ok t') :
    t.Keeps t' ∧ t'.isDirectory directory p = true ∧ t.pathExists directory p = false := by
  obtain ⟨parent, name, hslot, hname, hnothing, rfl⟩ := makeDirectory_eq_ok h
  obtain ⟨start, before, after, hbegins, hway, hsegments, hafter⟩ := hslot.way
  have hkeeps : t.Keeps (t.put (parent ++ [name]) .directory) :=
    keeps_put (by simp) fun old hold => by rw [hnothing] at hold; cases hold
  have hthere : (t.put (parent ++ [name]) .directory).lookup? (parent ++ [name]) =
      some .directory := by
    rw [lookup?_put (by simp), if_pos rfl]
  have hnew : (t.put (parent ++ [name]) .directory).Way linkLimit start p.segments
      (parent ++ [name]) := by
    rw [hsegments]
    exact (hway.keeps hkeeps).append (hkeeps.directory hslot.parent) fun n =>
      .down hname hthere (way_of_blank hafter n)
  refine ⟨hkeeps, isDirectory_iff.mpr (entryAt_eq_ok_iff.mpr
    ⟨start, _, hbegins.keeps hkeeps, hnew, hthere⟩), ?_⟩
  -- An old way along the path would be kept, and so end where the new one does.
  rw [Bool.eq_false_iff, ne_eq, pathExists_iff]
  rintro ⟨e, he⟩
  obtain ⟨start', q, hbegins', hold, hq⟩ := entryAt_eq_ok_iff.mp he
  cases hbegins.unique hbegins'
  cases (hold.keeps hkeeps).walk.symm.trans hnew.walk
  rw [hnothing] at hq
  cases hq

/-! ## 3. A directory with its parents -/

/-- Whatever becomes of it, nothing is taken away. -/
theorem makeDirectoriesUpTo_keeps (n : Nat) :
    t.Keeps (makeDirectoriesUpTo directory n t p).2 := by
  fun_induction makeDirectoriesUpTo directory n t p with
  | case1 | case3 | case7 => exact .refl _
  | case2 n t p hne made hmade => exact (makeDirectory_ok hmade).1
  | case4 t p hne e hmake hnotFound n parent hparent e' t' hparents ih => rwa [hparents] at ih
  | case5 t p hne e hmake hnotFound n parent hparent _ t' hparents made hmade ih =>
    rw [hparents] at ih
    exact ih.trans (makeDirectory_ok hmade).1
  | case6 t p hne e hmake hnotFound n parent hparent _ t' hparents e' hmake' ih =>
    rwa [hparents] at ih

theorem isDirectory_of_found {e : FileError}
    (h : (if t.isDirectory directory p then Except.ok () else .error e, t) = (.ok (), t')) :
    t'.isDirectory directory p = true := by
  obtain ⟨hfound, rfl⟩ := Prod.mk.inj h
  split at hfound
  · assumption
  · cases hfound

/-- A path that is not empty denotes a directory afterwards: one that was made, or
one that was found. -/
theorem makeDirectoriesUpTo_ok {n : Nat}
    (h : makeDirectoriesUpTo directory n t p = (.ok (), t')) (hne : p.text ≠ "") :
    t'.isDirectory directory p = true := by
  fun_induction makeDirectoriesUpTo directory n t p with
  | case1 n t p hempty => exact absurd hempty hne
  | case2 n t p _ made hmade => exact (Prod.mk.inj h).2 ▸ (makeDirectory_ok hmade).2.1
  | case3 => exact isDirectory_of_found h
  | case4 | case7 => cases h
  | case5 t p _ e hmake hnotFound n parent hparent _ t₁ hparents made hmade =>
    exact (Prod.mk.inj h).2 ▸ (makeDirectory_ok hmade).2.1
  | case6 => exact isDirectory_of_found h

/-! ## 4. Files -/

/-- A file is written where nothing stood, or where a file stood. -/
theorem write_keeps {data : ByteArray} {executable : Option Bool}
    (h : t.write directory p data executable = .ok t') : t.Keeps t' := by
  rw [write] at h
  split at h
  · cases h
  split at h
  · rename_i place _ old hthere
    cases h
    refine keeps_put (ne_root_of_lookup? (t := t) (by simp [hthere])) fun e he => ?_
    rw [hthere] at he
    cases he
    exact .file
  · cases h
  · rename_i place hthere
    split at h
    · cases h
    · cases h
      refine keeps_put (ne_root_of_lookup? (t := t) (by simp [hthere])) fun e he => ?_
      rw [hthere] at he
      cases he

theorem copy_keeps {source target : Path} (h : t.copy directory source target = .ok t') :
    t.Keeps t' := by
  rw [copy] at h
  split at h
  · cases h
  · split at h
    · cases h
    · rename_i emptied hemptied
      split at h
      · cases h
      · exact (write_keeps hemptied).trans (write_keeps h)
  · cases h

end FileTree

/-! ## 5. On a machine -/

namespace Machine

/-- The current directory stays, and every entry, files maybe with other bytes. -/
structure KeepsFiles (m m' : Machine) : Prop where
  directory : m'.directory = m.directory
  files : m.files.Keeps m'.files

theorem KeepsFiles.isCourse : IsCourse KeepsFiles where
  refl m := ⟨rfl, .refl m.files⟩
  trans h h' := ⟨h'.directory.trans h.directory, h.files.trans h'.files⟩

theorem keepsFiles_logged (m : Machine) (es : List Event) : m.KeepsFiles (m.logged es) :=
  ⟨rfl, .refl m.files⟩

variable {m m' : Machine} {p : Path}

/-- What exists stays a directory, or stays none. -/
theorem KeepsFiles.isDirectory_iff (h : m.KeepsFiles m') (hexists : m.pathExists p = true) :
    m'.isDirectory p = true ↔ m.isDirectory p = true := by
  rw [isDirectory, isDirectory, h.directory]
  exact FileTree.isDirectory_keeps h.files hexists

/-- Whether a path can denote a directory: it is not the empty path, and denotes nothing
else. -/
structure CanBeDirectory (m : Machine) (p : Path) : Prop where
  ne_empty : p.text ≠ ""
  of_exists : m.pathExists p = true → m.isDirectory p = true

theorem perform_ensureDirectory (m : Machine) (p : Path) :
    m.perform (ensureDirectory p) =
      if m.pathExists p then (.ok (), m)
      else
        ((m.files.makeDirectories m.directory p).1.mapError (.makeDirectory p),
          { m with files := (m.files.makeDirectories m.directory p).2 }) := by
  simp only [ensureDirectory, perform_bind, perform_get]
  split
  · rfl
  · rcases m.files.makeDirectories m.directory p with ⟨r, files⟩
    cases r <;> rfl

theorem ensureDirectory_keepsFiles (p : Path) : Advances KeepsFiles (ensureDirectory p) := by
  intro m
  rw [perform_ensureDirectory]
  split
  · exact KeepsFiles.isCourse.refl m
  · exact ⟨rfl, FileTree.makeDirectoriesUpTo_keeps _⟩

theorem changeFiles_keepsFiles {failure : FileError → Failure}
    {change : FileTree → Place → Except FileError FileTree}
    (h : ∀ {t t' directory}, change t directory = .ok t' → t.Keeps t') :
    Advances KeepsFiles (changeFiles failure change) := by
  intro m
  rw [perform_changeFiles]
  cases hchange : change m.files m.directory with
  | ok files => exact ⟨rfl, h hchange⟩
  | error e => exact KeepsFiles.isCourse.refl m

theorem ne_empty_of_isDirectory (h : m.isDirectory p = true) : p.text ≠ "" :=
  FileTree.ne_empty_of_entryAt (FileTree.isDirectory_iff.mp h)

theorem pathExists_of_isDirectory (h : m.isDirectory p = true) : m.pathExists p = true :=
  FileTree.pathExists_iff.mpr ⟨_, FileTree.isDirectory_iff.mp h⟩

/-- After a directory was ensured there is one at the path exactly if there could be one,
and it is there for as long as nothing is taken away. -/
theorem isDirectory_ensureDirectory {m₁ : Machine}
    (h : m.perform (ensureDirectory p) = (.ok (), m₁)) (hkeeps : m₁.KeepsFiles m') :
    m'.isDirectory p = true ↔ m.CanBeDirectory p := by
  rw [perform_ensureDirectory] at h
  split at h
  · -- What is there is left alone, be it a directory or not.
    rename_i hexists
    obtain rfl := (Prod.mk.inj h).2
    rw [hkeeps.isDirectory_iff hexists]
    exact ⟨fun hdirectory => ⟨ne_empty_of_isDirectory hdirectory, fun _ => hdirectory⟩,
      fun hcan => hcan.of_exists hexists⟩
  · rename_i hexists
    obtain ⟨hok, rfl⟩ := Prod.mk.inj h
    rcases hmake : m.files.makeDirectories m.directory p with ⟨r, files⟩
    rw [hmake] at hok hkeeps
    refine ⟨fun hdirectory => ⟨ne_empty_of_isDirectory hdirectory, fun h => absurd h hexists⟩,
      fun hcan => ?_⟩
    cases r with
    | error e => cases hok
    | ok _ =>
      have hmade : Machine.isDirectory { m with files } p = true :=
        FileTree.makeDirectoriesUpTo_ok hmake hcan.ne_empty
      exact (hkeeps.isDirectory_iff (pathExists_of_isDirectory hmade)).mpr hmade

end Machine

end CrossBuild
