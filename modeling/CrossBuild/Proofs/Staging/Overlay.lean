import CrossBuild.Proofs.Staging.Progress

/-!
# A fixture and a directory apart from it

A fixture is staged in a directory that is not below it and that it is not below
itself.  What is to be staged of the fixture then stands in the directory as it
stands in the fixture, over what was there before; the rest of the directory, the
fixture and everything elsewhere are left alone (`Staging.stage_overlays`).

The directory is there, or its path goes on with new names from one that is.  A
new directory cannot be below a file, though, and the paths of what is staged must
not be too long (`Staging.not_forall_stage_overlays`).
-/
namespace CrossBuild

namespace Staging

open FileTree (pathLimit)

variable {m m' m₀ : Machine} {source target : Path} {fixture destination r x q : Place}
variable {count : Nat}

/-! ## 1. Places apart -/

/-- Neither of two places is below the other. -/
structure IsApart (fixture destination : Place) : Prop where
  not_above : ¬fixture <+: destination
  not_below : ¬destination <+: fixture

theorem IsApart.ne (h : IsApart fixture destination) (x q : Place) :
    destination ++ x ≠ fixture ++ q := by
  intro hsame
  have hfixture : fixture <+: destination ++ x := hsame ▸ List.prefix_append fixture q
  rcases List.prefix_or_prefix_of_prefix (List.prefix_append destination x) hfixture with h' | h'
  · exact h.not_below h'
  · exact h.not_above h'

/-! ## 2. What staging leaves -/

/-- What is to be staged of a fixture stands in a directory, and nothing else has changed
but that the directory is there. -/
structure Overlaid (m : Machine) (fixture destination : Place) (count : Nat) (m' : Machine) :
    Prop where
  /-- What is admitted is as it is in the fixture. -/
  staged : ∀ {r : Place}, r ≠ [] → IsAdmitted r →
    (m.files.lookup? (fixture ++ r)).isSome = true →
    m'.files.lookup? (destination ++ r) = m.files.lookup? (fixture ++ r)
  /-- Everything else in the directory is as it was. -/
  other : ∀ {r : Place}, r ≠ [] →
    ¬(IsAdmitted r ∧ (m.files.lookup? (fixture ++ r)).isSome = true) →
    m'.files.lookup? (destination ++ r) = m.files.lookup? (destination ++ r)
  unchanged : ∀ r : Place, m'.files.lookup? (fixture ++ r) = m.files.lookup? (fixture ++ r)
  directory : m'.files.lookup? destination = some .directory
  elsewhere : ∀ {q : Place}, ¬q <+: destination → ¬destination <+: q →
    m'.files.lookup? q = m.files.lookup? q
  /-- The admitted files are counted. -/
  count : ∃ files : List Place, files.Nodup ∧ files.length = count ∧
    ∀ r, r ∈ files ↔ IsStaged m.files fixture r false

/-- What stands at a place of a fixture is staged, unless it stays behind. -/
theorem exists_isStaged_iff {t : FileTree} (hr : r ≠ []) :
    (∃ isDirectory, IsStaged t fixture r isDirectory) ↔
      IsAdmitted r ∧ (t.lookup? (fixture ++ r)).isSome = true := by
  constructor
  · rintro ⟨isDirectory, h⟩
    obtain ⟨e, he, -⟩ := h.there
    exact ⟨h.admitted, by rw [he]; rfl⟩
  · rintro ⟨hadmitted, hthere⟩
    obtain ⟨e, he⟩ := Option.isSome_iff_exists.mp hthere
    exact ⟨e.isDirectory, hr, hadmitted, e, he, rfl⟩

/-- The entries of a fixture are staged in any tree that has them too. -/
theorem isStaged_congr {t t' : FileTree} {isDirectory : Bool}
    (h : t'.lookup? (fixture ++ r) = t.lookup? (fixture ++ r)) :
    IsStaged t' fixture r isDirectory ↔ IsStaged t fixture r isDirectory := by
  constructor
  · rintro ⟨hroot, hadmitted, hthere⟩
    exact ⟨hroot, hadmitted, h ▸ hthere⟩
  · rintro ⟨hroot, hadmitted, hthere⟩
    exact ⟨hroot, hadmitted, h ▸ hthere⟩

/-- The files among what was visited. -/
theorem exists_files {t : FileTree} {visited : List (Place × Bool)}
    (h : Visits t fixture (fun _ => True) visited) :
    ∃ files : List Place, files.Nodup ∧ files.length = fileCount visited ∧
      ∀ r, r ∈ files ↔ IsStaged t fixture r false := by
  refine ⟨(visited.filter fun x => !x.2).map Prod.fst, ?_, ?_, fun r => ?_⟩
  · exact h.nodup.sublist (List.filter_sublist.map _)
  · rw [List.length_map, fileCount, List.countP_eq_length_filter]
  · simp only [List.mem_map, List.mem_filter, Prod.exists, Bool.not_eq_true']
    constructor
    · rintro ⟨_, _, ⟨hmem, rfl⟩, rfl⟩
      exact ((h.mem_iff _ _).mp hmem).2
    · intro hr
      exact ⟨r, false, ⟨(h.mem_iff r false).mpr ⟨trivial, hr⟩, rfl⟩, rfl⟩

/-! ## 3. Apart from the fixture -/

variable (hapart : IsApart fixture destination)
include hapart

/-- What comes to stand in the place of an entry is the entry itself. -/
theorem Lands.eq_lookup? {done : List (Place × Bool)} {isDirectory : Bool} {o : Option Entry}
    (h : Progress m₀ source target fixture destination
      (fun x o => o = m₀.files.lookup? (fixture ++ x)) done m)
    (hroom : HasRoom m₀ source target fixture destination)
    (hstaged : IsStaged m₀.files fixture x isDirectory)
    (hlands : Lands m fixture destination x isDirectory o) :
    o = m₀.files.lookup? (fixture ++ x) := by
  cases hlands with
  | @found old there =>
    rcases h.image_or_same x with himage | hsame
    · rw [← himage, there]
    · rw [hstaged.directory]
      cases old with
      | directory => rfl
      | file => exact absurd (hsame.symm.trans there) (hroom.directory hstaged)
      | link text => exact absurd there (h.site.plainDestination _ text)
  | made => exact hstaged.directory.symm
  | copied original =>
    -- Nothing has landed in the fixture, so the file is the one that it was at first.
    rw [if_neg (hapart.ne x x).symm, ← original]
    exact h.rest _ fun y _ _ => (hapart.ne y x).symm

/-- A directory that is there. -/
theorem Site.exists_overlaid (site : Site m₀ source target fixture destination)
    (hensure : m.perform (ensureDirectory target) = (.ok (), m₀))
    (hroom : HasRoom m₀ source target fixture destination) :
    ∃ count m', m.perform (stage source target) = (.ok count, m') ∧
      Overlaid m₀ fixture destination count m' := by
  obtain ⟨visited, m₁, hperform, hvisited, hprogress⟩ :=
    stage_ok (fun x o => o = m₀.files.lookup? (fixture ++ x)) site hensure
      (fun x _ q _ hsame => absurd hsame (hapart.ne x q)) hroom
      (fun ho => by rw [ho]) fun h hstaged _ hlands => hlands.eq_lookup? hapart h hroom hstaged
  refine ⟨_, _, hperform, ?_⟩
  have hdone (x : Place) (isDirectory : Bool) :
      (x, isDirectory) ∈ visited ↔ IsStaged m₀.files fixture x isDirectory := by
    rw [hvisited.mem_iff, true_and]
  constructor
  case staged =>
    intro r hr hadmitted hthere
    obtain ⟨isDirectory, hstaged⟩ := (exists_isStaged_iff hr).mpr ⟨hadmitted, hthere⟩
    exact hprogress.image r isDirectory ((hdone r isDirectory).mpr hstaged)
  case other =>
    intro r hr hnone
    refine hprogress.rest _ fun x isDirectory hx hsame => hnone ?_
    rw [← exists_isStaged_iff hr, List.append_cancel_left hsame]
    exact ⟨isDirectory, (hdone x isDirectory).mp hx⟩
  case unchanged => exact fun r => hprogress.rest _ fun x _ _ => (hapart.ne x r).symm
  case directory => exact hprogress.keeps.directory site.target.there
  case elsewhere =>
    intro q _ hq
    refine hprogress.rest q fun x _ _ hsame => hq ?_
    rw [hsame]
    exact List.prefix_append destination x
  case count => exact exists_files hvisited

omit hapart

/-- **Staging copies what is admitted of a fixture, and nothing else.**  The directory may be
there or not, as long as it is apart from the fixture and has room for it. -/
theorem stage_overlays (hapart : IsApart fixture destination)
    (h : Grounds m source target fixture destination)
    (hroom : HasRoom m source target fixture destination) :
    ∃ count m', m.perform (stage source target) = (.ok count, m') ∧
      Overlaid m fixture destination count m' := by
  obtain ⟨files, hensure, hgrows, site⟩ := h.ensureDirectory
  have hfixture (q : Place) : files.lookup? (fixture ++ q) = m.files.lookup? (fixture ++ q) :=
    hgrows.rest _ fun hinitial => hapart.not_above ((List.prefix_append fixture q).trans hinitial)
  have hstaged (x : Place) (isDirectory : Bool) : IsStaged files fixture x isDirectory ↔
      IsStaged m.files fixture x isDirectory := isStaged_congr (hfixture x)
  have hbelow {x : Place} {isDirectory : Bool} (hx : IsStaged files fixture x isDirectory) :
      files.lookup? (destination ++ x) = m.files.lookup? (destination ++ x) :=
    hgrows.below hx.ne_root
  have hroom' : HasRoom { m with files } source target fixture destination :=
    ⟨⟨fun hx => hbelow hx ▸ hroom.directory ((hstaged _ _).mp hx),
      fun hx => hbelow hx ▸ hroom.file ((hstaged _ _).mp hx)⟩,
      fun hx => hroom.source_size ((hstaged _ _).mp hx),
      fun hx => hroom.target_size ((hstaged _ _).mp hx)⟩
  obtain ⟨count, m', hperform, hoverlaid⟩ := site.exists_overlaid hapart hensure hroom'
  refine ⟨count, m', hperform, ?_⟩
  constructor
  case staged =>
    intro r hr hadmitted hthere
    rw [← hfixture] at hthere ⊢
    exact hoverlaid.staged hr hadmitted hthere
  case other =>
    intro r hr hnone
    rw [← hfixture] at hnone
    rw [← hgrows.below hr]
    exact hoverlaid.other hr hnone
  case unchanged => exact fun r => (hoverlaid.unchanged r).trans (hfixture r)
  case directory => exact hoverlaid.directory
  case elsewhere =>
    intro q hq hq'
    rw [← hgrows.rest q hq]
    exact hoverlaid.elsewhere hq hq'
  case count =>
    obtain ⟨counted, hnodup, hlength, hmem⟩ := hoverlaid.count
    exact ⟨counted, hnodup, hlength, fun r => (hmem r).trans (hstaged r false)⟩

/-- A directory that is there, with an older file to replace, and one that is not. -/
theorem stage_overlays_of_directories :
    let t : FileTree := ⟨[(["fix"], .directory), (["fix", "sub"], .directory),
      (["fix", "sub", "a"], .file "new".toUTF8 false), (["fix", ".git"], .directory),
      (["fix", ".git", "a"], .file "a".toUTF8 false), (["to"], .directory),
      (["to", "sub"], .directory), (["to", "sub", "a"], .file "old".toUTF8 true),
      (["to", "sub", "b"], .file "b".toUTF8 false)]⟩
    let m : Machine := { files := t }
    (IsApart ["fix"] ["to"] ∧ Grounds m ⟨"/fix"⟩ ⟨"/to"⟩ ["fix"] ["to"] ∧
      HasRoom m ⟨"/fix"⟩ ⟨"/to"⟩ ["fix"] ["to"] ∧
      ∃ count m', m.perform (stage ⟨"/fix"⟩ ⟨"/to"⟩) = (.ok count, m') ∧
        Overlaid m ["fix"] ["to"] count m') ∧
    IsApart ["fix"] ["to", "x", "y"] ∧
      Grounds m ⟨"/fix"⟩ ⟨"/to/x/y"⟩ ["fix"] ["to", "x", "y"] ∧
      HasRoom m ⟨"/fix"⟩ ⟨"/to/x/y"⟩ ["fix"] ["to", "x", "y"] ∧
      ∃ count m', m.perform (stage ⟨"/fix"⟩ ⟨"/to/x/y"⟩) = (.ok count, m') ∧
        Overlaid m ["fix"] ["to", "x", "y"] count m' := by
  intro t m
  have hsound : t.Sound := FileTree.sound_of_entries (by decide) (by decide)
  have hsource : t.Leads m.directory ⟨"/fix"⟩ ["fix"] :=
    hsound.leads (FileTree.begins_of_isAbsolute (by decide) (by decide) (by decide)) (by decide)
      (by decide)
  have hlayout := layout_of_entries hsound (by simp [t]) hsource
  have hshort : ∀ {x isDirectory}, IsStaged t ["fix"] x isDirectory →
      (sourcePath ⟨"/fix"⟩ x).text.utf8ByteSize < pathLimit :=
    forall_isStaged (P := fun x _ => (sourcePath ⟨"/fix"⟩ x).text.utf8ByteSize < pathLimit)
      (by decide)
  constructor
  · have hapart : IsApart ["fix"] ["to"] := ⟨by decide, by decide⟩
    have htarget : t.Leads m.directory ⟨"/to"⟩ ["to"] :=
      hsound.leads (FileTree.begins_of_isAbsolute (by decide) (by decide) (by decide)) (by decide)
        (by decide)
    have hroom : HasRoom m ⟨"/fix"⟩ ⟨"/to"⟩ ["fix"] ["to"] :=
      ⟨isCompatible_of_entries (by decide), hshort, forall_isStaged
        (P := fun x _ => (targetPath ⟨"/to"⟩ x).text.utf8ByteSize < pathLimit) (by decide)⟩
    have hgrounds : Grounds m ⟨"/fix"⟩ ⟨"/to"⟩ ["fix"] ["to"] := ⟨hlayout _, .there htarget⟩
    exact ⟨hapart, hgrounds, hroom, stage_overlays hapart hgrounds hroom⟩
  · have hapart : IsApart ["fix"] ["to", "x", "y"] := ⟨by decide, by decide⟩
    have htarget : t.Continues m.directory ⟨"/to/x/y"⟩ ["to"] ["x", "y"] :=
      hsound.continues (FileTree.begins_of_isAbsolute (by decide) (by decide) (by decide))
        (by decide) (by decide) (by decide) (by decide) fun name hname =>
          ⟨["", "to", "x"], [], Option.some.inj hname ▸ by decide, nofun⟩
    have hroom : HasRoom m ⟨"/fix"⟩ ⟨"/to/x/y"⟩ ["fix"] ["to", "x", "y"] :=
      ⟨isCompatible_of_entries (by decide), hshort, forall_isStaged
        (P := fun x _ => (targetPath ⟨"/to/x/y"⟩ x).text.utf8ByteSize < pathLimit) (by decide)⟩
    have hgrounds : Grounds m ⟨"/fix"⟩ ⟨"/to/x/y"⟩ ["fix"] ["to", "x", "y"] :=
      ⟨hlayout _, .absent htarget (by simp)⟩
    exact ⟨hapart, hgrounds, hroom, stage_overlays hapart hgrounds hroom⟩

/-- A destination whose path is stopped on its way is not made. -/
theorem exists_stage_error (source : Path) (h : m.files.Blocked m.directory target) :
    ∃ e, m.perform (stage source target) = (.error e, m) := by
  obtain ⟨e, hensure⟩ := Machine.perform_ensureDirectory_of_blocked h
  exact ⟨.makeDirectory target e, by rw [stage, Machine.perform_bind, hensure]⟩

/-- **There has to be room for the directory and the paths.**  A directory that is not there
is not made below a file, and one that is there may have a path that leaves no room for
names. -/
theorem not_forall_stage_overlays :
    (¬∀ (m : Machine) (source target : Path) (fixture destination : Place),
      Layout m source fixture destination → IsApart fixture destination →
      IsCompatible m.files fixture destination →
      target.components = .root :: destination.map .name →
      (∀ r, m.files.lookup? (destination ++ r) = none) →
      ∃ count m', m.perform (stage source target) = (.ok count, m')) ∧
    ¬∀ (m : Machine) (source target : Path) (fixture destination : Place),
      Layout m source fixture destination → IsApart fixture destination →
      IsCompatible m.files fixture destination →
      m.files.Leads m.directory target destination →
      ∃ count m', m.perform (stage source target) = (.ok count, m') := by
  let t : FileTree := ⟨[(["fix"], .directory), (["fix", "a"], .file "a".toUTF8 false),
    (["f"], .file ByteArray.empty false), (["to"], .directory)]⟩
  let m : Machine := { files := t }
  have hsound : t.Sound := FileTree.sound_of_entries (by decide) (by decide)
  have hsource : t.Leads m.directory ⟨"/fix"⟩ ["fix"] :=
    hsound.leads (FileTree.begins_of_isAbsolute (by decide) (by decide) (by decide)) (by decide)
      (by decide)
  have hlayout := layout_of_entries hsound (by simp [t]) hsource
  constructor
  · intro hall
    have hroot : t.Leads m.directory ⟨"/"⟩ [] :=
      hsound.leads (FileTree.begins_of_isAbsolute (by decide) (by decide) (by decide)) (by decide)
        (by decide)
    have hfile : t.lookup? ["f"] = some (.file ByteArray.empty false) := by decide
    have hblocked : t.Blocked m.directory
        ((Path.mk "/").join (Place.relative (["f"] ++ ["sub"]))) :=
      hroot.blocked_of_file (by decide) hsound hfile (by decide)
    have hpath : (Path.mk "/").join (Place.relative (["f"] ++ ["sub"])) = ⟨"/f/sub"⟩ := by decide
    rw [hpath] at hblocked
    have hnone (r : Place) : t.lookup? (["f", "sub"] ++ r) = none := by
      simp [t, FileTree.lookup?, List.lookup_cons]
    obtain ⟨count, m', hstage⟩ := hall m ⟨"/fix"⟩ ⟨"/f/sub"⟩ ["fix"] ["f", "sub"] (hlayout _)
      ⟨by decide, by decide⟩ (isCompatible_of_entries (by decide)) (by decide) hnone
    obtain ⟨e, herror⟩ := exists_stage_error (m := m) ⟨"/fix"⟩ hblocked
    cases herror.symm.trans hstage
  · intro hall
    let target : Path := .ofChars (List.replicate 4093 Path.separator ++ "to".toList)
    have hsize : target.text.utf8ByteSize = 4095 := by
      rw [Path.size_slashes]
      decide
    have htarget : t.Leads m.directory target ["to"] := by
      refine hsound.leads (FileTree.begins_of_isAbsolute ?_ ?_ ?_) ?_ (by decide)
      · rw [Path.isAbsolute_ofChars]
        rfl
      · rw [Path.hasNul_slashes]
        decide
      · rw [hsize]
        decide
      · rw [Path.below_slashes]
        decide
    obtain ⟨count, m', hstage⟩ := hall m ⟨"/fix"⟩ target ["fix"] ["to"] (hlayout _)
      ⟨by decide, by decide⟩ (isCompatible_of_entries (by decide)) htarget
    have hstaged : IsStaged t ["fix"] ["a"] false :=
      ⟨by decide, by decide, .file "a".toUTF8 false, by decide, rfl⟩
    have happart : IsApart ["fix"] ["to"] := ⟨by decide, by decide⟩
    have hshort := target_size_of_stage ⟨hlayout _, htarget⟩
      (fun x _ q _ hsame => absurd hsame (happart.ne x q)) hstage hstaged
    have hlong : target.text.utf8ByteSize + 1 ≤ (targetPath target ["a"]).text.utf8ByteSize :=
      target.size_join (q := ⟨"a"⟩) (by decide)
    rw [hsize] at hlong
    exact absurd hshort (Nat.not_lt.mpr hlong)

end Staging

end CrossBuild
