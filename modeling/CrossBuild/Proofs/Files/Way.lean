import CrossBuild.Files.Changes

/-!
# Ways through a tree

The walk along a path stops in many ways.  Where it ends at an entry, it has
passed through directories and links only, and `FileTree.Way` says just that,
one case for each kind of step.

Whoever adds to a tree, or replaces files by files, leaves such ways as they
are (`FileTree.Keeps`).  So what a path denotes stays a directory, or stays
none (`FileTree.isDirectory_keeps`).
-/
namespace CrossBuild

/-- What may come to stand in an entry's stead when nothing is taken away: the same
entry, or a file for a file. -/
inductive Entry.Becomes : Entry → Entry → Prop where
  | same {e : Entry} : Becomes e e
  | file {data data' : ByteArray} {executable executable' : Bool} :
    Becomes (.file data executable) (.file data' executable')

theorem Entry.Becomes.trans {e e₁ e₂ : Entry} (h : e.Becomes e₁) (h' : e₁.Becomes e₂) :
    e.Becomes e₂ := by
  cases h with
  | same => exact h'
  | file => cases h' <;> exact .file

theorem Entry.Becomes.directory_iff {e e' : Entry} (h : e.Becomes e') :
    e' = .directory ↔ e = .directory := by
  cases h <;> simp

namespace FileTree

/-! ## 1. Ways -/

/-- A segment that is the name of an entry. -/
structure IsName (segment : String) : Prop where
  ne_empty : segment ≠ ""
  ne_here : segment ≠ "."
  ne_up : segment ≠ ".."
  size : segment.utf8ByteSize ≤ nameLimit

/-- The segments lead from one place to an entry at another, through directories and
links, with at most `links` links on the way. -/
inductive Way (t : FileTree) : Nat → Place → List String → Place → Prop where
  | done {links : Nat} {start : Place} : Way t links start [] start
  /-- An empty segment and `.` stay where they are. -/
  | stay {links : Nat} {start q : Place} {segment : String} {rest : List String}
    (blank : segment = "" ∨ segment = ".") (next : Way t links start rest q) :
    Way t links start (segment :: rest) q
  /-- `..` goes up. -/
  | up {links : Nat} {start q : Place} {rest : List String}
    (next : Way t links start.dropLast rest q) : Way t links start (".." :: rest) q
  /-- The name of a directory goes down into it. -/
  | down {links : Nat} {start q : Place} {segment : String} {rest : List String}
    (isName : IsName segment) (there : t.lookup? (start ++ [segment]) = some .directory)
    (next : Way t links (start ++ [segment]) rest q) : Way t links start (segment :: rest) q
  /-- The name of a file ends the way. -/
  | file {links : Nat} {start : Place} {segment : String} {data : ByteArray} {executable : Bool}
    (isName : IsName segment)
    (there : t.lookup? (start ++ [segment]) = some (.file data executable)) :
    Way t links start [segment] (start ++ [segment])
  /-- The name of a link stands for the segments of its target. -/
  | follow {links : Nat} {start q : Place} {segment target : String} {rest : List String}
    (isName : IsName segment) (there : t.lookup? (start ++ [segment]) = some (.link target))
    (ne_empty : target ≠ "")
    (next : Way t links (if (Path.mk target).isAbsolute then [] else start)
      ((Path.mk target).segments ++ rest) q) : Way t (links + 1) start (segment :: rest) q

variable {t t' : FileTree} {links : Nat} {start q r : Place} {segments more : List String}
variable {e : Entry}

theorem isName_of {segment : String} (hblank : ¬(segment = "" || segment = ".") = true)
    (hup : segment ≠ "..") (hsize : ¬nameLimit < segment.utf8ByteSize) : IsName segment := by
  simp only [Bool.or_eq_true, decide_eq_true_eq, not_or] at hblank
  exact ⟨hblank.1, hblank.2, hup, Nat.le_of_not_lt hsize⟩

theorem IsName.not_blank {segment : String} (h : IsName segment) :
    ¬(segment = "" || segment = ".") = true := by
  simp [h.ne_empty, h.ne_here]

theorem IsName.not_long {segment : String} (h : IsName segment) :
    ¬nameLimit < segment.utf8ByteSize :=
  Nat.not_lt.mpr h.size

/-- A walk that ends at an entry goes along a way. -/
theorem way_of_walk (h : t.walk true links start segments = .ok q)
    (hq : t.lookup? q = some e) : t.Way links start segments q := by
  -- Induction on the walk: where it fails `h` is absurd, where it ends in the void `hq` is.
  fun_induction t.walk true links start segments with
  | case1 => cases h; exact .done
  | case2 links start segment rest hblank ih => exact .stay (by simpa using hblank) (ih h)
  | case3 links start rest _ ih => exact .up (ih h)
  | case5 links start segment rest _ _ _ place habsent _ =>
    rw [← Except.ok.inj h, habsent] at hq
    cases hq
  | case7 links start segment rest hblank hup hsize place hthere ih =>
    exact .down (isName_of hblank hup hsize) hthere (ih h)
  | case8 links start segment rest hblank hup hsize place data executable hthere hlast =>
    rw [← Except.ok.inj h, List.isEmpty_iff.mp hlast]
    exact .file (isName_of hblank hup hsize) hthere
  | case10 links start segment rest _ _ _ place target _ hlast => simp at hlast
  | case13 start segment rest hblank hup hsize place target hthere _ hne links path ih =>
    exact .follow (isName_of hblank hup hsize) hthere hne (ih h)
  | case4 | case6 | case9 | case11 | case12 => cases h

/-- A way is what a walk goes along. -/
theorem Way.walk (h : t.Way links start segments q) :
    t.walk true links start segments = .ok q := by
  induction h with
  | done => rw [FileTree.walk]
  | stay hblank _ ih => rw [FileTree.walk, if_pos (by simpa using hblank), ih]
  | up _ ih => rw [FileTree.walk, if_neg (by decide), if_pos rfl, ih]
  | @down links start q segment rest hname hthere _ ih =>
    rw [FileTree.walk, if_neg hname.not_blank, if_neg hname.ne_up, if_neg hname.not_long]
    simp only [hthere, ih]
  | @file links start segment data executable hname hthere =>
    rw [FileTree.walk, if_neg hname.not_blank, if_neg hname.ne_up, if_neg hname.not_long]
    simp [hthere]
  | @follow links start q segment target rest hname hthere hne _ ih =>
    rw [FileTree.walk, if_neg hname.not_blank, if_neg hname.ne_up, if_neg hname.not_long]
    simp [hthere, hne, ih]

/-- A way may go on from the directory where another one ends. -/
theorem Way.append (h : t.Way links start segments q) (hq : t.lookup? q = some .directory)
    (h' : ∀ n, t.Way n q more r) : t.Way links start (segments ++ more) r := by
  induction h with
  | done => exact h' _
  | stay hblank _ ih => exact .stay hblank (ih hq h')
  | up _ ih => exact .up (ih hq h')
  | down hname hthere _ ih => exact .down hname hthere (ih hq h')
  | file hname hthere => rw [hthere] at hq; cases hq
  | follow hname hthere hne _ ih =>
    exact .follow hname hthere hne (List.append_assoc _ _ more ▸ ih hq h')

theorem way_of_blank (h : ∀ segment ∈ segments, segment = "") (n : Nat) :
    t.Way n start segments start := by
  induction segments with
  | nil => exact .done
  | cons segment rest ih =>
    exact .stay (.inl (h segment (by simp))) (ih fun s hs => h s (by simp [hs]))

/-! ## 2. Changes that keep ways -/

/-- Every entry of a tree stands in another one as well, files maybe with other bytes. -/
def Keeps (t t' : FileTree) : Prop :=
  ∀ place e, t.lookup? place = some e → ∃ e', t'.lookup? place = some e' ∧ e.Becomes e'

theorem Keeps.refl (t : FileTree) : t.Keeps t := fun _ e h => ⟨e, h, .same⟩

theorem Keeps.trans {t₁ t₂ : FileTree} (h : t.Keeps t₁) (h' : t₁.Keeps t₂) : t.Keeps t₂ := by
  intro place e he
  obtain ⟨e₁, he₁, hbecomes⟩ := h place e he
  obtain ⟨e₂, he₂, hbecomes'⟩ := h' place e₁ he₁
  exact ⟨e₂, he₂, hbecomes.trans hbecomes'⟩

theorem Keeps.directory (h : t.Keeps t') {place : Place}
    (hplace : t.lookup? place = some .directory) : t'.lookup? place = some .directory := by
  obtain ⟨e, he, hbecomes⟩ := h place _ hplace
  cases hbecomes
  exact he

theorem Keeps.link (h : t.Keeps t') {place : Place} {target : String}
    (hplace : t.lookup? place = some (.link target)) :
    t'.lookup? place = some (.link target) := by
  obtain ⟨e, he, hbecomes⟩ := h place _ hplace
  cases hbecomes
  exact he

theorem Keeps.file (h : t.Keeps t') {place : Place} {data : ByteArray} {executable : Bool}
    (hplace : t.lookup? place = some (.file data executable)) :
    ∃ data' executable', t'.lookup? place = some (.file data' executable') := by
  obtain ⟨e, he, hbecomes⟩ := h place _ hplace
  cases hbecomes <;> exact ⟨_, _, he⟩

/-- An entry may be put where nothing stood, or a file where a file stood. -/
theorem keeps_put {place : Place} {e : Entry} (hroot : place ≠ [])
    (h : ∀ old, t.lookup? place = some old → old.Becomes e) : t.Keeps (t.put place e) := by
  intro q old hq
  rw [lookup?_put hroot]
  by_cases heq : q = place
  · rw [if_pos heq]
    exact ⟨e, rfl, h old (heq ▸ hq)⟩
  · rw [if_neg heq]
    exact ⟨old, hq, .same⟩

/-- What keeps entries keeps the ways to them. -/
theorem Way.keeps (hkeeps : t.Keeps t') (h : t.Way links start segments q) :
    t'.Way links start segments q := by
  induction h with
  | done => exact .done
  | stay hblank _ ih => exact .stay hblank ih
  | up _ ih => exact .up ih
  | down hname hthere _ ih => exact .down hname (hkeeps.directory hthere) ih
  | file hname hthere =>
    obtain ⟨_, _, hthere'⟩ := hkeeps.file hthere
    exact .file hname hthere'
  | follow hname hthere hne _ ih => exact .follow hname (hkeeps.link hthere) hne ih

/-! ## 3. What a path denotes -/

/-- A path that the system takes begins at a directory: the root, or the current one. -/
structure Begins (t : FileTree) (directory : Place) (p : Path) (start : Place) : Prop where
  hasNul : p.hasNul = false
  ne_empty : p.text ≠ ""
  size : p.text.utf8ByteSize < pathLimit
  start : p.isAbsolute = true ∧ start = [] ∨
    p.isAbsolute = false ∧ t.lookup? directory = some .directory ∧ start = directory

variable {directory : Place} {p : Path}

theorem Begins.unique {start' : Place} (h : t.Begins directory p start)
    (h' : t.Begins directory p start') : start' = start := by
  rcases h.start with ⟨habsolute, rfl⟩ | ⟨habsolute, -, rfl⟩ <;>
    rcases h'.start with ⟨habsolute', rfl⟩ | ⟨habsolute', -, rfl⟩ <;> simp_all

theorem walkFrom_eq_ok_iff :
    t.walkFrom directory true p segments = .ok q ↔
      ∃ start, t.Begins directory p start ∧ t.walk true linkLimit start segments = .ok q := by
  constructor
  · intro h
    rw [walkFrom] at h
    split at h
    · cases h
    split at h
    · cases h
    split at h
    · cases h
    rename_i hnul hne hsize
    split at h
    · rename_i habsolute
      exact ⟨[], ⟨by simpa using hnul, hne, Nat.lt_of_not_le hsize, .inl ⟨habsolute, rfl⟩⟩, h⟩
    · rename_i habsolute
      split at h
      · rename_i hdirectory
        exact ⟨directory, ⟨by simpa using hnul, hne, Nat.lt_of_not_le hsize,
          .inr ⟨by simpa using habsolute, hdirectory, rfl⟩⟩, h⟩
      · cases h
  · rintro ⟨start, ⟨hnul, hne, hsize, hstart⟩, h⟩
    rw [walkFrom, if_neg (by simp [hnul]), if_neg hne, if_neg (Nat.not_le.mpr hsize)]
    rcases hstart with ⟨habsolute, rfl⟩ | ⟨habsolute, hdirectory, rfl⟩
    · rw [if_pos habsolute, h]
    · rw [if_neg (by simp [habsolute]), if_pos hdirectory, h]

theorem Begins.keeps (hkeeps : t.Keeps t') (h : t.Begins directory p start) :
    t'.Begins directory p start := by
  refine ⟨h.hasNul, h.ne_empty, h.size, ?_⟩
  rcases h.start with h | ⟨habsolute, hdirectory, hstart⟩
  · exact .inl h
  · exact .inr ⟨habsolute, hkeeps.directory hdirectory, hstart⟩

/-- A path denotes the entry that a way along its segments ends at. -/
theorem entryAt_eq_ok_iff :
    t.entryAt directory p = .ok e ↔
      ∃ start q, t.Begins directory p start ∧ t.Way linkLimit start p.segments q ∧
        t.lookup? q = some e := by
  constructor
  · intro h
    rw [entryAt] at h
    split at h
    · cases h
    · rename_i q hresolve
      split at h
      · rename_i e' hq
        cases h
        obtain ⟨start, hbegins, hwalk⟩ := walkFrom_eq_ok_iff.mp hresolve
        exact ⟨start, q, hbegins, way_of_walk hwalk hq, hq⟩
      · cases h
  · rintro ⟨start, q, hbegins, hway, hq⟩
    have hresolve : t.resolve directory p = .ok q :=
      walkFrom_eq_ok_iff.mpr ⟨start, hbegins, hway.walk⟩
    rw [entryAt, hresolve]
    simp only [hq]

/-- What a path denotes, it denotes still. -/
theorem entryAt_keeps (hkeeps : t.Keeps t') (h : t.entryAt directory p = .ok e) :
    ∃ e', t'.entryAt directory p = .ok e' ∧ e.Becomes e' := by
  obtain ⟨start, q, hbegins, hway, hq⟩ := entryAt_eq_ok_iff.mp h
  obtain ⟨e', hq', hbecomes⟩ := hkeeps q e hq
  exact ⟨e', entryAt_eq_ok_iff.mpr ⟨start, q, hbegins.keeps hkeeps, hway.keeps hkeeps, hq'⟩,
    hbecomes⟩

theorem isDirectory_iff :
    t.isDirectory directory p = true ↔ t.entryAt directory p = .ok .directory := by
  rw [isDirectory]
  split
  · simp_all
  · rename_i hne
    simp only [Bool.false_eq_true, false_iff]
    exact hne

theorem pathExists_iff :
    t.pathExists directory p = true ↔ ∃ e, t.entryAt directory p = .ok e := by
  rw [pathExists]
  cases t.entryAt directory p <;> simp

/-- The empty path denotes nothing. -/
theorem ne_empty_of_entryAt (h : t.entryAt directory p = .ok e) : p.text ≠ "" := by
  obtain ⟨_, _, hbegins, -⟩ := entryAt_eq_ok_iff.mp h
  exact hbegins.ne_empty

/-- What the root does not have leads nowhere. -/
theorem pathExists_of_missing {name : String} {rest : List String} (habsolute : p.isAbsolute = true)
    (hsegments : p.segments = "" :: name :: rest) (hname : IsName name)
    (h : t.lookup? [name] = none) : t.pathExists directory p = false := by
  rw [Bool.eq_false_iff, ne_eq, pathExists_iff]
  rintro ⟨e, he⟩
  obtain ⟨start, q, hbegins, hway, hq⟩ := entryAt_eq_ok_iff.mp he
  obtain rfl : start = [] := by
    rcases hbegins.start with ⟨-, hroot⟩ | ⟨hrelative, -, -⟩
    · exact hroot
    · rw [habsolute] at hrelative
      cases hrelative
  -- No way begins with an absent name, but the walk does not fail if it is the last one.
  have hwalk := hway.walk
  rw [hsegments, walk, if_pos (by decide), walk, if_neg hname.not_blank, if_neg hname.ne_up,
    if_neg hname.not_long] at hwalk
  simp only [List.nil_append, h] at hwalk
  split at hwalk
  · rw [← Except.ok.inj hwalk, h] at hq
    cases hq
  · cases hwalk

/-- What exists stays a directory, or stays none. -/
theorem isDirectory_keeps (hkeeps : t.Keeps t') (h : t.pathExists directory p = true) :
    t'.isDirectory directory p = true ↔ t.isDirectory directory p = true := by
  obtain ⟨e, he⟩ := pathExists_iff.mp h
  obtain ⟨e', he', hbecomes⟩ := entryAt_keeps hkeeps he
  rw [isDirectory_iff, isDirectory_iff, he, he', Except.ok.injEq, Except.ok.injEq]
  exact hbecomes.directory_iff

end FileTree

end CrossBuild
