import CrossBuild.Proofs.Staging.Overlay

/-!
# What staging does to the fixture itself

The walk and the copies are on one tree of files, so what is staged may come to
stand in the fixture.  The files of the fixture keep their bytes as long as no file
lands on one of them, and nothing lands where the walk would find it
(`Staging.stage_keeps_fixture`).  Where the destination is apart from the fixture that
is so (`Staging.IsApart.spares`), and where the fixture is below the destination
it is so if it has nothing under the name that it has there itself
(`Staging.spares_of_below`).

A fixture that is staged in its own directory lands on itself.  Each of its files is
then emptied before it is read (`Staging.stage_onto_itself`).
-/
namespace CrossBuild

open FileTree (pathLimit)

namespace Staging

variable {m m' m₀ : Machine} {source target : Path} {fixture destination p r x q : Place}
variable {t t' : FileTree} {count : Nat} {isDirectory : Bool} {data : ByteArray}
variable {executable : Bool}

/-! ## 1. Fixtures that are spared -/

/-- What is staged keeps away from the files of the fixture, and from what the walk finds. -/
structure Spares (t : FileTree) (fixture destination : Place) : Prop where
  /-- The destination is not in the part of the fixture that is staged. -/
  outside : ∀ {p : Place}, destination = fixture ++ p → p = [] ∨ ¬IsAdmitted p
  /-- No file lands on a file. -/
  file : ∀ {x q : Place} {data : ByteArray} {executable : Bool}, IsStaged t fixture x false →
    destination ++ x = fixture ++ q → t.lookup? (fixture ++ q) ≠ some (.file data executable)
  closed : Closed t fixture destination

theorem IsApart.spares (h : IsApart fixture destination) (t : FileTree) :
    Spares t fixture destination where
  outside := fun hp => absurd (List.prefix_append fixture _) (hp ▸ h.not_above)
  file := fun _ hsame => absurd hsame (h.ne _ _)
  closed := fun x _ q _ hsame => absurd hsame (h.ne x q)

/-- A fixture below the destination lands on itself only with what it has under its own
name. -/
theorem spares_of_below (hsound : t.Sound) (hp : p ≠ [])
    (hnone : ∀ isDirectory, ¬IsStaged t (destination ++ p) p isDirectory) :
    Spares t (destination ++ p) destination := by
  have hkeeps (x q : Place) (isDirectory : Bool)
      (hstaged : IsStaged t (destination ++ p) x isDirectory) :
      destination ++ x ≠ destination ++ p ++ q := by
    intro hsame
    rw [List.append_assoc, List.append_cancel_left_eq] at hsame
    rw [hsame] at hstaged
    by_cases hq : q = []
    · rw [hq, List.append_nil] at hstaged
      exact hnone isDirectory hstaged
    · exact hnone true (hstaged.above hsound hp hq)
  constructor
  case outside =>
    intro p' hp'
    rw [List.append_assoc, List.self_eq_append_right] at hp'
    exact absurd (List.append_eq_nil_iff.mp hp').1 hp
  case file => exact fun hstaged hsame => absurd hsame (hkeeps _ _ false hstaged)
  case closed => exact fun x b q hstaged hsame => absurd hsame (hkeeps x q b hstaged)

/-- Making the destination changes nothing about that. -/
theorem Spares.grows (h : Spares t fixture destination) (hgrows : t.Grows destination t') :
    Spares t' fixture destination := by
  -- What is new of the fixture is above the destination, and lands in what stays behind.
  have hold {x q : Place} {isDirectory : Bool} (hstaged : IsStaged t' fixture x isDirectory)
      (hsame : destination ++ x = fixture ++ q) (hq : IsAdmitted q ∨ isDirectory = false) :
      IsStaged t fixture x isDirectory := by
    obtain ⟨e, he, hkind⟩ := hstaged.there
    by_cases hinitial : fixture ++ x <+: destination
    · obtain ⟨rest, hrest⟩ := hinitial
      have hdirectory := hgrows.made (fixture ++ x) ⟨rest, hrest⟩
      rw [hdirectory] at he
      cases he
      rw [List.append_assoc] at hrest
      have houtside := (h.outside hrest.symm).resolve_left fun hnil =>
        hstaged.ne_root (List.append_eq_nil_iff.mp hnil).1
      rw [← hrest, List.append_assoc, List.append_cancel_left_eq] at hsame
      refine absurd (fun n hn => ?_) houtside
      rcases hq with hq | hq
      · exact hq n (hsame ▸ List.mem_append_left x hn)
      · cases hkind.trans hq
    · rwa [isStaged_congr (hgrows.rest _ hinitial).symm]
  constructor
  case outside => exact h.outside
  case file =>
    intro x q data executable hstaged hsame hfile
    exact h.file (hold hstaged hsame (.inr rfl)) hsame (hgrows.old hfile nofun)
  case closed =>
    intro x isDirectory q hstaged hsame hq
    obtain ⟨e, he⟩ := Option.isSome_iff_exists.mp
      (h.closed x isDirectory q (hold hstaged hsame (.inl hq)) hsame hq)
    obtain ⟨e', he', -⟩ := hgrows.keeps _ e he
    rw [he']
    rfl

/-! ## 2. Their files -/

/-- What has been staged is there, and a file of the fixture that it landed on is the file
that it was. -/
def IsSpared (t : FileTree) (fixture destination x : Place) (o : Option Entry) : Prop :=
  o.isSome = true ∧ ∀ q data executable, destination ++ x = fixture ++ q →
    t.lookup? (fixture ++ q) = some (.file data executable) → o = some (.file data executable)

theorem Lands.isSpared {done : List (Place × Bool)} {o : Option Entry}
    (h : Progress m₀ source target fixture destination
      (IsSpared m₀.files fixture destination) done m)
    (hspares : Spares m₀.files fixture destination)
    (hstaged : IsStaged m₀.files fixture x isDirectory)
    (hlands : Lands m fixture destination x isDirectory o) :
    IsSpared m₀.files fixture destination x o := by
  cases hlands with
  | found there =>
    refine ⟨rfl, fun q data executable hsame hfile => ?_⟩
    rw [← there]
    rcases h.image_or_same x with himage | hbefore
    · exact himage.2 q data executable hsame hfile
    · rw [hbefore, hsame, hfile]
  | made absent =>
    refine ⟨rfl, fun q data executable hsame hfile => ?_⟩
    obtain ⟨e, he, -⟩ := h.keeps _ _ hfile
    rw [← hsame, absent] at he
    cases he
  | copied =>
    exact ⟨rfl, fun q data executable hsame hfile => absurd hfile (hspares.file hstaged hsame)⟩

/-- **Staging keeps the files of a fixture that it spares.**  If it succeeds, every file of
the fixture has the bytes that it had before. -/
theorem stage_keeps_fixture (h : Grounds m source target fixture destination)
    (hspares : Spares m.files fixture destination)
    (hstage : m.perform (stage source target) = (.ok count, m'))
    (hfile : m.files.lookup? (fixture ++ r) = some (.file data executable)) :
    m'.files.lookup? (fixture ++ r) = some (.file data executable) := by
  obtain ⟨files, hensure, hgrows, site⟩ := h.ensureDirectory
  have hspares' : Spares files fixture destination := hspares.grows hgrows
  have hfile' : files.lookup? (fixture ++ r) = some (.file data executable) := by
    rw [hgrows.rest _ fun hinitial => ?_, hfile]
    have hdirectory := hgrows.made _ hinitial
    obtain ⟨data', executable', hkept⟩ := hgrows.keeps.file hfile
    cases hdirectory.symm.trans hkept
  have hwalk : IsWalk True source target files fixture (Progress { m with files } source target
      fixture destination (IsSpared files fixture destination)) :=
    isWalk _ site hspares'.closed (fun _ => .inl trivial) (fun _ ho => ho.1)
      (fun _ _ _ => .inl trivial) fun h hstaged _ hlands => hlands.isSpared h hspares' hstaged
  obtain ⟨m₁, ⟨visited, -, hprogress, -⟩, rfl⟩ :=
    (hwalk.achieves_stage hensure site.source site.progress).of_ok hstage
  -- Either something has landed on the file, or it is as it was.
  by_cases hlanded : ∃ x b, (x, b) ∈ visited ∧ fixture ++ r = destination ++ x
  · obtain ⟨x, b, hx, hsame⟩ := hlanded
    have hspared := (hprogress.image x b hx).2 r data executable hsame.symm hfile'
    rwa [← hsame] at hspared
  · have hsame := hprogress.rest (fixture ++ r) fun x b hx hsame => hlanded ⟨x, b, hx, hsame⟩
    exact hsame.trans hfile'

/-- A fixture that is staged in the directory that it is in. -/
theorem stage_keeps_fixture_of_parent :
    let t : FileTree := ⟨[(["w"], .directory), (["w", "fix"], .directory),
      (["w", "fix", "sub"], .directory), (["w", "fix", "sub", "a"], .file "a".toUTF8 false)]⟩
    let m : Machine := { files := t }
    Grounds m ⟨"/w/fix"⟩ ⟨"/w"⟩ ["w", "fix"] ["w"] ∧ Spares t ["w", "fix"] ["w"] ∧
      t.lookup? (["w", "fix"] ++ ["sub", "a"]) = some (.file "a".toUTF8 false) ∧
      ∃ count m', m.perform (stage ⟨"/w/fix"⟩ ⟨"/w"⟩) = (.ok count, m') ∧
        m'.files.lookup? (["w", "fix"] ++ ["sub", "a"]) = some (.file "a".toUTF8 false) := by
  intro t m
  have hsound : t.Sound := FileTree.sound_of_entries (by decide) (by decide)
  have hsource : t.Leads m.directory ⟨"/w/fix"⟩ ["w", "fix"] :=
    hsound.leads (FileTree.begins_of_isAbsolute (by decide) (by decide) (by decide)) (by decide)
      (by decide)
  have htarget : t.Leads m.directory ⟨"/w"⟩ ["w"] :=
    hsound.leads (FileTree.begins_of_isAbsolute (by decide) (by decide) (by decide)) (by decide)
      (by decide)
  have hlayout := layout_of_entries hsound (by simp [t]) hsource ["w"]
  have hspares : Spares t (["w"] ++ ["fix"]) ["w"] := by
    refine spares_of_below hsound (by simp) fun isDirectory hstaged => ?_
    obtain ⟨e, he, -⟩ := hstaged.there
    have hnone : t.lookup? (["w"] ++ ["fix"] ++ ["fix"]) = none := by decide
    cases hnone.symm.trans he
  have hroom : HasRoom m ⟨"/w/fix"⟩ ⟨"/w"⟩ ["w", "fix"] ["w"] :=
    ⟨isCompatible_of_entries (by decide),
      forall_isStaged (P := fun x _ => (sourcePath ⟨"/w/fix"⟩ x).text.utf8ByteSize < pathLimit)
        (by decide),
      forall_isStaged (P := fun x _ => (targetPath ⟨"/w"⟩ x).text.utf8ByteSize < pathLimit)
        (by decide)⟩
  have hgrounds : Grounds m ⟨"/w/fix"⟩ ⟨"/w"⟩ ["w", "fix"] ["w"] := ⟨hlayout, .there htarget⟩
  have hfile : t.lookup? (["w", "fix"] ++ ["sub", "a"]) = some (.file "a".toUTF8 false) := by
    decide
  obtain ⟨count, m', hstage⟩ := stage_succeeds ⟨hlayout, htarget⟩ hspares.closed hroom
  exact ⟨hgrounds, hspares, hfile, count, m', hstage,
    stage_keeps_fixture hgrounds hspares hstage hfile⟩

/-! ## 3. A fixture that lands on itself -/

/-- The entry without the bytes that it may have. -/
def emptied : Entry → Entry
  | .file _ executable => .file ByteArray.empty executable
  | e => e

theorem isDirectory_emptied (e : Entry) : (emptied e).isDirectory = e.isDirectory := by
  cases e <;> rfl

theorem Lands.eq_emptied {done : List (Place × Bool)} {o : Option Entry}
    (h : Progress m₀ source target fixture fixture
      (fun x o => o = (m₀.files.lookup? (fixture ++ x)).map emptied) done m)
    (hstaged : IsStaged m₀.files fixture x isDirectory)
    (hlands : Lands m fixture fixture x isDirectory o) :
    o = (m₀.files.lookup? (fixture ++ x)).map emptied := by
  cases hlands with
  | found there =>
    rcases h.image_or_same x with himage | hbefore
    · rw [← himage, there]
    · rw [← there, hbefore, hstaged.directory]
      rfl
  | made =>
    rw [hstaged.directory]
    rfl
  | @copied data executable original =>
    rw [if_pos rfl]
    rcases h.image_or_same x with himage | hbefore
    · obtain ⟨e, he, -⟩ := hstaged.there
      rw [original, he] at himage
      rw [he]
      cases e with
      | file => cases himage; rfl
      | directory => cases himage
      | link => cases himage
    · rw [← hbefore, original]
      rfl

/-- **A fixture is lost when it is staged onto itself.**  Staging succeeds, and leaves every
file empty that it should have copied. -/
theorem stage_onto_itself (site : Site m source target fixture fixture)
    (hsource : ∀ {x isDirectory}, IsStaged m.files fixture x isDirectory →
      (sourcePath source x).text.utf8ByteSize < pathLimit)
    (htarget : ∀ {x isDirectory}, IsStaged m.files fixture x isDirectory →
      (targetPath target x).text.utf8ByteSize < pathLimit) :
    ∃ count m', m.perform (stage source target) = (.ok count, m') ∧
      ∀ r, r ≠ [] → IsAdmitted r →
        m'.files.lookup? (fixture ++ r) = (m.files.lookup? (fixture ++ r)).map emptied := by
  have hclosed : Closed m.files fixture fixture := by
    intro x isDirectory q hstaged hsame _
    obtain ⟨e, he, -⟩ := hstaged.there
    rw [← hsame, he]
    rfl
  have hroom : HasRoom m source target fixture fixture := by
    refine ⟨⟨fun hstaged hfile => ?_, fun hstaged hdirectory => ?_⟩, hsource, htarget⟩
    · cases hstaged.directory.symm.trans hfile
    · obtain ⟨e, he, hkind⟩ := hstaged.there
      cases he.symm.trans hdirectory
      cases hkind
  obtain ⟨visited, m₁, hperform, hvisited, hprogress⟩ :=
    stage_ok (fun x o => o = (m.files.lookup? (fixture ++ x)).map emptied) site
      (Machine.perform_ensureDirectory_of_leads site.target) hclosed hroom
      (fun ho => by
        rw [ho, Option.map_map]
        exact congrArg (Option.map · _) (funext isDirectory_emptied))
      fun h hstaged _ hlands => hlands.eq_emptied h hstaged
  refine ⟨_, _, hperform, fun r hr hadmitted => ?_⟩
  cases he : m.files.lookup? (fixture ++ r) with
  | some e =>
    have hstaged : IsStaged m.files fixture r e.isDirectory := ⟨hr, hadmitted, e, he, rfl⟩
    have himage := hprogress.image r e.isDirectory ((hvisited.mem_iff _ _).mpr ⟨trivial, hstaged⟩)
    rwa [he] at himage
  | none =>
    refine (hprogress.rest _ fun x isDirectory hx hsame => ?_).trans he
    obtain ⟨e, hthere, -⟩ := ((hvisited.mem_iff x isDirectory).mp hx).2.there
    rw [← hsame, he] at hthere
    cases hthere

/-- A fixture with a single file does not keep it. -/
theorem not_forall_stage_keeps_fixture :
    ¬∀ (m m' : Machine) (source target : Path) (fixture destination r : Place) (count : Nat)
        (data : ByteArray) (executable : Bool),
      Site m source target fixture destination →
      m.perform (stage source target) = (.ok count, m') →
      m.files.lookup? (fixture ++ r) = some (.file data executable) →
      m'.files.lookup? (fixture ++ r) = some (.file data executable) := by
  intro hall
  let t : FileTree := ⟨[(["fix"], .directory), (["fix", "a"], .file "a".toUTF8 false)]⟩
  let m : Machine := { files := t }
  have hsound : t.Sound := FileTree.sound_of_entries (by decide) (by decide)
  have hleads : t.Leads m.directory ⟨"/fix"⟩ ["fix"] :=
    hsound.leads (FileTree.begins_of_isAbsolute (by decide) (by decide) (by decide)) (by decide)
      (by decide)
  have site : Site m ⟨"/fix"⟩ ⟨"/fix"⟩ ["fix"] ["fix"] :=
    ⟨layout_of_entries hsound (by simp [t]) hleads _, hleads⟩
  obtain ⟨count, m', hstage, hemptied⟩ := stage_onto_itself site
    (forall_isStaged (P := fun x _ => (sourcePath ⟨"/fix"⟩ x).text.utf8ByteSize < pathLimit)
      (by decide))
    (forall_isStaged (P := fun x _ => (targetPath ⟨"/fix"⟩ x).text.utf8ByteSize < pathLimit)
      (by decide))
  have hfile : t.lookup? (["fix"] ++ ["a"]) = some (.file "a".toUTF8 false) := by decide
  have hkept := hall m m' _ _ _ _ ["a"] count "a".toUTF8 false site hstage hfile
  have hlost : m'.files.lookup? (["fix"] ++ ["a"]) = some (.file ByteArray.empty false) := by
    rw [hemptied ["a"] (by simp) (by decide), hfile]
    rfl
  have hdata : ByteArray.empty ≠ "a".toUTF8 := by decide
  rw [hlost] at hkept
  exact hdata (Entry.file.inj (Option.some.inj hkept)).1

end Staging

end CrossBuild
