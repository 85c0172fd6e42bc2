import CrossBuild.Proofs.Files.Creation
import CrossBuild.Proofs.Staging.Walk

/-!
# Staging an entry

An entry is staged in a directory that the walk has come to, and it changes nothing
but what stands under its own name there (`Staging.Stages`).  A directory that is
there already is left as it is, and so is any other entry in its place; a file
takes the place of another one.

A file is in the way of everything below it, a directory is in the way of a file,
and a path can be too long.  Then the entry is not staged, and nothing else keeps it
from being staged (`Staging.Fits`).
-/
namespace CrossBuild

namespace Staging

open FileTree (pathLimit)
open Machine (Achieves achieves_of_ok achieves_of_error)

/-! ## 1. Fixtures and destinations -/

/-- A path leads to a fixture, and there are no links in it nor at its destination. -/
structure Layout (m : Machine) (source : Path) (fixture destination : Place) : Prop where
  sound : m.files.Sound
  source : m.files.Leads m.directory source fixture
  plainFixture : ∀ r text, m.files.lookup? (fixture ++ r) ≠ some (.link text)
  plainDestination : ∀ r text, m.files.lookup? (destination ++ r) ≠ some (.link text)

theorem layout_of_entries {t : FileTree} {source : Path} {fixture : Place} (hsound : t.Sound)
    (hplain : ∀ y ∈ t.entries, ∀ text, y.2 ≠ .link text) (hsource : t.Leads [] source fixture)
    (destination : Place) : Layout { files := t } source fixture destination :=
  ⟨hsound, hsource, fun _ => FileTree.lookup?_ne_link hplain _,
    fun _ => FileTree.lookup?_ne_link hplain _⟩

/-- A fixture and a directory that it is staged in. -/
structure Site (m : Machine) (source target : Path) (fixture destination : Place) : Prop
    extends Layout m source fixture destination where
  target : m.files.Leads m.directory target destination

/-- A fixture and a destination that may still have to be made. -/
structure Grounds (m : Machine) (source target : Path) (fixture destination : Place) : Prop
    extends Layout m source fixture destination where
  target : m.files.IsDestination m.directory target destination

variable {m m' m₀ : Machine} {source target : Path} {fixture destination r x : Place}
variable {name : String} {isDirectory : Bool} {e : Entry} {mayFail : Prop}

/-- An entry that is no link may be put into a directory, if it takes away nothing but a file's
bytes. -/
theorem Site.put (h : Site m source target fixture destination) {place : Place}
    (hplace : m.files.lookup? place = some .directory) (hname : FileTree.IsFileName name)
    (hold : ∀ old, m.files.lookup? (place ++ [name]) = some old → old.Becomes e)
    (hplain : ∀ text, e ≠ .link text) :
    Site { m with files := m.files.put (place ++ [name]) e } source target fixture destination := by
  have hroot := FileTree.ne_root_of_concat place name
  have hkeeps : m.files.Keeps (m.files.put (place ++ [name]) e) := FileTree.keeps_put hroot hold
  have hlink {q : Place} {text : String} (hq : m.files.lookup? q ≠ some (.link text)) :
      (m.files.put (place ++ [name]) e).lookup? q ≠ some (.link text) := by
    rw [FileTree.lookup?_put hroot]
    split
    · exact fun heq => hplain text (Option.some.inj heq)
    · exact hq
  exact ⟨⟨h.sound.put hplace hname hold, h.source.keeps hkeeps,
    fun r text => hlink (h.plainFixture r text),
    fun r text => hlink (h.plainDestination r text)⟩, h.target.keeps hkeeps⟩

theorem Grounds.ensureDirectory (h : Grounds m source target fixture destination) :
    ∃ files, m.perform (ensureDirectory target) = (.ok (), { m with files }) ∧
      m.files.Grows destination files ∧
      Site { m with files } source target fixture destination := by
  obtain ⟨files, hperform, hgrows, hleads⟩ :=
    Machine.perform_ensureDirectory_of_isDestination h.target h.sound
  have hlayout : Layout { m with files } source fixture destination :=
    ⟨hgrows.sound, h.source.keeps hgrows.keeps,
      fun r text hlink => h.plainFixture r text (hgrows.old hlink nofun),
      fun r text hlink => h.plainDestination r text (hgrows.old hlink nofun)⟩
  exact ⟨files, hperform, hgrows, hlayout, hleads⟩

/-! ## 2. One entry -/

/-- What becomes of a machine when the entry under a name is staged: a directory is there or
is made, and a file is copied. -/
inductive Stages (m : Machine) (fixture destination r : Place) (name : String) :
    Bool → Machine → Prop where
  | found {e : Entry} (there : m.files.lookup? (destination ++ r ++ [name]) = some e) :
    Stages m fixture destination r name true m
  | made (above : m.files.lookup? (destination ++ r) = some .directory)
    (absent : m.files.lookup? (destination ++ r ++ [name]) = none) :
    Stages m fixture destination r name true
      { m with files := m.files.put (destination ++ r ++ [name]) .directory }
  | copied {data : ByteArray} {executable : Bool}
    (above : m.files.lookup? (destination ++ r) = some .directory)
    (original : m.files.lookup? (fixture ++ r ++ [name]) = some (.file data executable))
    (free : ∀ e, m.files.lookup? (destination ++ r ++ [name]) = some e →
      (Entry.file data executable).Becomes e) :
    Stages m fixture destination r name false
      { m with files := m.files.put (destination ++ r ++ [name]) (.file
        (if fixture ++ r ++ [name] = destination ++ r ++ [name] then ByteArray.empty else data)
        executable) }

/-- Files are kept, and at most what stands at one place has changed. -/
structure Changes (m : Machine) (place : Place) (m' : Machine) : Prop where
  keeps : m.files.Keeps m'.files
  rest : ∀ q, q ≠ place → m'.files.lookup? q = m.files.lookup? q

/-- Staging an entry changes what stands under its name, and the site stays one. -/
theorem Site.stages (h : Site m source target fixture destination)
    (hname : FileTree.IsFileName name)
    (hstages : Stages m fixture destination r name isDirectory m') :
    Site m' source target fixture destination ∧
      Changes m (destination ++ (r ++ [name])) m' := by
  have hput {e : Entry} (habove : m.files.lookup? (destination ++ r) = some .directory)
      (hold : ∀ old, m.files.lookup? (destination ++ r ++ [name]) = some old → old.Becomes e)
      (hplain : ∀ text, e ≠ .link text) :
      Site { m with files := m.files.put (destination ++ r ++ [name]) e } source target fixture
          destination ∧
        Changes m (destination ++ (r ++ [name]))
          { m with files := m.files.put (destination ++ r ++ [name]) e } := by
    have hroot := FileTree.ne_root_of_concat (destination ++ r) name
    refine ⟨h.put habove hname hold hplain, FileTree.keeps_put hroot hold, fun q hq => ?_⟩
    rw [← List.append_assoc] at hq
    exact (FileTree.lookup?_put hroot).trans (if_neg hq)
  cases hstages with
  | found => exact ⟨h, .refl m.files, fun _ _ => rfl⟩
  | made above absent =>
    exact hput above (fun old hold => by cases absent.symm.trans hold) fun text heq => by cases heq
  | copied above original free =>
    exact hput above (fun old hold => by cases free old hold <;> exact .file)
      fun text heq => by cases heq

/-- What comes to stand in the place of an entry: what was there already, a new directory, or
a copy of a file. -/
inductive Lands (m : Machine) (fixture destination x : Place) : Bool → Option Entry → Prop where
  | found {e : Entry} (there : m.files.lookup? (destination ++ x) = some e) :
    Lands m fixture destination x true (some e)
  | made (absent : m.files.lookup? (destination ++ x) = none) :
    Lands m fixture destination x true (some .directory)
  | copied {data : ByteArray} {executable : Bool}
    (original : m.files.lookup? (fixture ++ x) = some (.file data executable)) :
    Lands m fixture destination x false (some (.file
      (if fixture ++ x = destination ++ x then ByteArray.empty else data) executable))

theorem Stages.lands (hstages : Stages m fixture destination r name isDirectory m') :
    Lands m fixture destination (r ++ [name]) isDirectory
      (m'.files.lookup? (destination ++ (r ++ [name]))) := by
  have hroot := FileTree.ne_root_of_concat (destination ++ r) name
  rw [← List.append_assoc]
  cases hstages with
  | found there =>
    rw [there]
    exact .found (List.append_assoc .. ▸ there)
  | made above absent =>
    rw [FileTree.lookup?_put hroot, if_pos rfl]
    exact .made (List.append_assoc .. ▸ absent)
  | copied above original free =>
    rw [FileTree.lookup?_put hroot, if_pos rfl, List.append_assoc, List.append_assoc]
    exact .copied (List.append_assoc .. ▸ original)

/-- Nothing keeps an entry from being staged. -/
structure Fits (m : Machine) (source target : Path) (destination r : Place) (name : String)
    (isDirectory : Bool) : Prop where
  above : m.files.lookup? (destination ++ r) = some .directory
  source_size : (sourcePath source (r ++ [name])).text.utf8ByteSize < pathLimit
  target_size : (targetPath target (r ++ [name])).text.utf8ByteSize < pathLimit
  free : isDirectory = false →
    m.files.lookup? (destination ++ r ++ [name]) ≠ some .directory

/-- A directory is found or made where its path comes to. -/
theorem exists_perform_ensureDirectory (fixture : Place) {p : Path}
    (henters : m.files.Enters m.directory p (destination ++ r) name)
    (hplain : ∀ text, m.files.lookup? (destination ++ r ++ [name]) ≠ some (.link text)) :
    ∃ m', m.perform (ensureDirectory p) = (.ok (), m') ∧
      Stages m fixture destination r name true m' := by
  cases he : m.files.lookup? (destination ++ r ++ [name]) with
  | some e =>
    have hexists : m.pathExists p = true := FileTree.pathExists_iff.mpr
      ⟨e, henters.entryAt he fun text htext => hplain text (htext ▸ he)⟩
    exact ⟨m, by rw [Machine.perform_ensureDirectory, if_pos hexists], .found he⟩
  | none =>
    have habsent : m.pathExists p = false := henters.pathExists_of_absent he
    refine ⟨_, ?_, .made henters.there he⟩
    rw [Machine.perform_ensureDirectory, if_neg (by simp [habsent]), FileTree.makeDirectories,
      henters.makeDirectories he]
    rfl

/-- Nothing is staged at a path that is stopped on its way. -/
theorem exists_perform_copyEntry_error (source : Path)
    (h : m.files.Blocked m.directory (targetPath target x)) (isDirectory : Bool) :
    ∃ e, m.perform (copyEntry source target x isDirectory) = (.error e, m) := by
  cases isDirectory with
  | true =>
    obtain ⟨e, hensure⟩ := Machine.perform_ensureDirectory_of_blocked h
    refine ⟨.makeDirectory (targetPath target x) e, ?_⟩
    simp only [copyEntry, if_true, Machine.perform_bind, hensure]
  | false =>
    obtain ⟨e, hcopy⟩ := h.copy (sourcePath source x)
    refine ⟨.copyFile (sourcePath source x) (targetPath target x) e, ?_⟩
    simp only [copyEntry, Bool.false_eq_true, if_false, Machine.perform_bind,
      Machine.perform_changeFiles, hcopy]

namespace Site

variable (h : Site m source target fixture destination)
include h

/-- The path of an entry of the fixture leads to it, if it is not too long. -/
theorem resolve_sourcePath (he : m.files.lookup? (fixture ++ r ++ [name]) = some e)
    (hsize : (sourcePath source (r ++ [name])).text.utf8ByteSize < pathLimit) :
    m.files.resolve m.directory (sourcePath source (r ++ [name])) =
      .ok (fixture ++ r ++ [name]) := by
  have hnames := h.sound.isFileName_of_below (List.append_assoc .. ▸ he)
  have hpath : sourcePath source (r ++ [name]) = source.join (Place.relative (r ++ [name])) :=
    source.joinAll_names (by simp) hnames
  rw [hpath] at hsize ⊢
  refine (h.source.enters hnames h.sound (h.sound.parent he) hsize).resolve fun text => ?_
  rw [List.append_assoc]
  exact h.plainFixture _ text

theorem blocked_sourcePath (he : m.files.lookup? (fixture ++ r ++ [name]) = some e)
    (hsize : ¬(sourcePath source (r ++ [name])).text.utf8ByteSize < pathLimit) :
    m.files.Blocked m.directory (sourcePath source (r ++ [name])) := by
  have hnames := h.sound.isFileName_of_below (List.append_assoc .. ▸ he)
  have hpath : sourcePath source (r ++ [name]) = source.join (Place.relative (r ++ [name])) :=
    source.joinAll_names (by simp) hnames
  rw [hpath] at hsize ⊢
  exact h.source.blocked_of_long hnames (Nat.le_of_not_lt hsize)

/-- The path that an entry is staged at comes to its name, or it is blocked and the walk
fails. -/
theorem enters_targetPath (hnames : ∀ n ∈ r ++ [name], FileTree.IsFileName n)
    (hthere : m.files.lookup? (destination ++ r) = some e)
    (hfits : mayFail ∨ Fits m source target destination r name isDirectory) :
    m.files.Enters m.directory (targetPath target (r ++ [name])) (destination ++ r) name ∨
      m.files.Blocked m.directory (targetPath target (r ++ [name])) ∧ mayFail := by
  rcases hfits with hfail | hfits
  · have hplain (text : String) : e ≠ .link text := by
      rintro rfl
      exact h.plainDestination r text hthere
    exact (h.target.enters_or_blocked hnames h.sound hthere hplain).imp_right fun hb => ⟨hb, hfail⟩
  · exact .inl (h.target.enters hnames h.sound hfits.above hfits.target_size)

/-- A file is copied to where a path comes to, unless a directory is there. -/
theorem achieves_copied {p : Path} {data : ByteArray} {executable : Bool}
    (hfile : m.files.lookup? (fixture ++ r ++ [name]) = some (.file data executable))
    (henters : m.files.Enters m.directory p (destination ++ r) name)
    (hfits : mayFail ∨ Fits m source target destination r name false)
    (failure : FileError → Failure) :
    m.Achieves mayFail (changeFiles failure fun t directory =>
      t.copy directory (sourcePath source (r ++ [name])) p) fun _ m' =>
        Stages m fixture destination r name false m' := by
  rw [Achieves, Machine.perform_changeFiles]
  by_cases hsize : (sourcePath source (r ++ [name])).text.utf8ByteSize < pathLimit
  · have hresolve := h.resolve_sourcePath hfile hsize
    by_cases hdirectory : m.files.lookup? (destination ++ r ++ [name]) = some .directory
    · -- No file takes the place of a directory.
      have hcopy : m.files.copy m.directory (sourcePath source (r ++ [name])) p =
          .error .isADirectory := by
        rw [FileTree.copy, FileTree.entryAt, hresolve]
        simp only [hfile]
        rw [FileTree.write, henters.resolve fun text htext => by
          cases hdirectory.symm.trans htext]
        simp only [hdirectory]
      rw [hcopy]
      exact hfits.resolve_right fun hfits => hfits.free rfl hdirectory
    · have hfree (e : Entry) (he : m.files.lookup? (destination ++ r ++ [name]) = some e) :
          (Entry.file data executable).Becomes e := by
        cases e with
        | directory => exact absurd he hdirectory
        | file => exact .file
        | link text =>
          rw [List.append_assoc] at he
          exact absurd he (h.plainDestination _ text)
      rw [FileTree.copy_eq hresolve hfile henters hfree]
      exact .copied henters.there hfile hfree
  · obtain ⟨e, hentry⟩ := (h.blocked_sourcePath hfile hsize).entryAt
    rw [FileTree.copy, hentry]
    exact hfits.resolve_right fun hfits => hsize hfits.source_size

/-- What staging an entry does, and when it does not fail. -/
theorem achieves_copyEntry (he : m.files.lookup? (fixture ++ r ++ [name]) = some e)
    (hthere : (m.files.lookup? (destination ++ r)).isSome = true)
    (hfits : mayFail ∨ Fits m source target destination r name e.isDirectory) :
    m.Achieves mayFail (copyEntry source target (r ++ [name]) e.isDirectory) fun count m' =>
      count = fileCount [(r ++ [name], e.isDirectory)] ∧
        m.files.Enters m.directory (targetPath target (r ++ [name])) (destination ++ r) name ∧
          Stages m fixture destination r name e.isDirectory m' := by
  obtain ⟨above, habove⟩ := Option.isSome_iff_exists.mp hthere
  have hnames := h.sound.isFileName_of_below (List.append_assoc .. ▸ he)
  rcases h.enters_targetPath hnames habove hfits with henters | ⟨hblocked, hfail⟩
  · cases e with
    | directory =>
      obtain ⟨m', hensure, hstages⟩ := exists_perform_ensureDirectory fixture henters fun text =>
        List.append_assoc .. ▸ h.plainDestination _ text
      refine achieves_of_ok ?_ ⟨rfl, henters, hstages⟩
      simp only [copyEntry, Entry.isDirectory, if_true, Machine.perform_bind, hensure]
      rfl
    | file data executable =>
      refine (h.achieves_copied he henters hfits _).bind fun _ m' hstages => ?_
      exact achieves_of_ok (Machine.perform_pure m' 1) ⟨rfl, henters, hstages⟩
    | link text =>
      rw [List.append_assoc] at he
      exact absurd he (h.plainFixture _ text)
  · obtain ⟨failure, hperform⟩ := exists_perform_copyEntry_error source hblocked e.isDirectory
    exact achieves_of_error hperform hfail

end Site

end Staging

end CrossBuild
