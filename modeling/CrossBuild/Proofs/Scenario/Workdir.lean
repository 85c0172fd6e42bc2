import CrossBuild.Proofs.Files.Directory
import CrossBuild.Proofs.Scenario.Preparation

/-!
# Where a scenario works

A scenario works in a directory that it makes, or in one that its plan names
and that is made unless something is there.  Staging a fixture adds to the
files, so what the path denotes once the directory was asked for, it denotes
when the scenario has been set up.

A fresh directory is always one.  A named one is exactly if the plan's path is
not empty and does not denote anything else (`Machine.CanBeDirectory`).
-/
namespace CrossBuild

open Machine (KeepsFiles)

/-! ## 1. Staging -/

namespace Staging

theorem copyEntry_keepsFiles (source target : Path) (relative : Place) (isDirectory : Bool) :
    Advances KeepsFiles (copyEntry source target relative isDirectory) := by
  unfold copyEntry
  split
  · exact .bind KeepsFiles.isCourse (Machine.ensureDirectory_keepsFiles _) fun _ =>
      KeepsFiles.isCourse.refl
  · exact .bind KeepsFiles.isCourse (Machine.changeFiles_keepsFiles FileTree.copy_keeps) fun _ =>
      KeepsFiles.isCourse.refl

theorem openDirectory_keepsFiles (source : Path) (relative : Place) :
    Advances KeepsFiles (openDirectory source relative) := by
  refine .bind KeepsFiles.isCourse KeepsFiles.isCourse.refl fun m => ?_
  split <;> exact KeepsFiles.isCourse.refl

theorem copyAll_keepsFiles {copyOne : String × Bool → Operation Nat}
    (h : ∀ x, Advances KeepsFiles (copyOne x)) :
    ∀ xs : List (String × Bool), Advances KeepsFiles (copyAll copyOne xs)
  | [] => KeepsFiles.isCourse.refl
  | x :: rest =>
    .bind KeepsFiles.isCourse (h x) fun _ =>
      .bind KeepsFiles.isCourse (copyAll_keepsFiles h rest) fun _ => KeepsFiles.isCourse.refl

theorem copyBelow_keepsFiles (source target : Path) (depth : Nat) (relative : Place) :
    Advances KeepsFiles (copyBelow source target depth relative) := by
  induction depth generalizing relative with
  | zero => exact KeepsFiles.isCourse.refl
  | succ depth ih =>
    refine .bind KeepsFiles.isCourse (openDirectory_keepsFiles source relative) fun entries =>
      copyAll_keepsFiles (fun x => ?_) entries
    refine .bind KeepsFiles.isCourse (copyEntry_keepsFiles source target _ x.2) fun _ => ?_
    split
    · exact .bind KeepsFiles.isCourse (ih _) fun _ => KeepsFiles.isCourse.refl
    · exact KeepsFiles.isCourse.refl

theorem stage_keepsFiles (source target : Path) : Advances KeepsFiles (stage source target) := by
  have log (e : Event) : Advances KeepsFiles (liftM (log e) : Operation Unit) := fun m =>
    m.keepsFiles_logged [e]
  unfold stage
  refine .bind KeepsFiles.isCourse (Machine.ensureDirectory_keepsFiles target) fun _ =>
    .bind KeepsFiles.isCourse KeepsFiles.isCourse.refl fun m => ?_
  split
  · exact KeepsFiles.isCourse.refl
  · exact .bind KeepsFiles.isCourse (copyBelow_keepsFiles source target _ _) fun _ =>
      .bind KeepsFiles.isCourse (log _) fun _ => KeepsFiles.isCourse.refl
  · exact .bind KeepsFiles.isCourse KeepsFiles.isCourse.refl fun _ =>
      .bind KeepsFiles.isCourse (log _) fun _ => KeepsFiles.isCourse.refl

end Staging

namespace ScenarioPlan

variable {m m' : Machine}

/-- A fixture that was staged has only been added. -/
theorem stageFixture_ok {fixture : Option Path} {w : Workdir}
    (h : m.perform (stageFixture fixture w) = (.ok (), m')) : m.KeepsFiles m' := by
  cases fixture with
  | none =>
    cases h
    exact KeepsFiles.isCourse.refl m
  | some source =>
    have hstage : Advances KeepsFiles (discard (Staging.stage source w.path).verify) :=
      .bind KeepsFiles.isCourse (Staging.stage_keepsFiles source w.path).verify fun _ =>
        KeepsFiles.isCourse.refl
    rw [stageFixture, Machine.perform_tryCatch] at h
    have hkeeps := hstage m
    split at h
    · rename_i hok
      cases h
      rwa [hok] at hkeeps
    · rw [Machine.perform_bind] at h
      cases h

/-! ## 2. The working directory -/

/-- A directory of the plan's is ensured. -/
theorem makeWorkdir_named {p : Path} {w : Workdir}
    (h : m.perform (makeWorkdir (some p)) = (.ok w, m')) :
    w = .fixed p ∧ m.perform (ensureDirectory p) = (.ok (), m') := by
  obtain ⟨_, _, hensure, h⟩ := Machine.perform_bind_ok h
  cases h
  rw [Machine.perform_verify] at hensure
  rcases hperform : m.perform (ensureDirectory p) with ⟨r, m₁⟩
  rw [hperform] at hensure
  cases r <;> cases hensure
  exact ⟨rfl, rfl⟩

/-- A directory of the scenario's own is a new one. -/
theorem makeWorkdir_fresh {w : Workdir} (h : m.perform (makeWorkdir none) = (.ok w, m')) :
    ∃ p, w = .temporary p ∧ m.pathExists p = false ∧ m'.isDirectory p = true := by
  simp only [makeWorkdir, Machine.perform_bind, Machine.perform_get] at h
  split at h
  · cases h
  · rename_i root _
    split at h
    · rename_i files hmake
      cases h
      obtain ⟨-, hmade, hfree⟩ := FileTree.makeDirectory_ok hmake
      exact ⟨_, rfl, hfree, hmade⟩
    · cases h

/-- Where a scenario works that was set up from a plan. -/
structure WorksIn (plan : ScenarioPlan) (m m' : Machine) (w : Workdir) : Prop where
  /-- It is where the plan says. -/
  named : ∀ p, plan.workdir = some p → w = .fixed p
  /-- If the plan says nothing, it is where nothing was before. -/
  fresh : plan.workdir = none → ∃ p, w = .temporary p ∧ m.pathExists p = false
  /-- It is a directory, unless there cannot be one where the plan says. -/
  isDirectory_iff : m'.isDirectory w.path = true ↔
    ∀ p, plan.workdir = some p → m.CanBeDirectory p

/-- What was made is as good when the fixture has been staged. -/
theorem worksIn_of_makeWorkdir {plan : ScenarioPlan} {m₁ : Machine} {w : Workdir}
    (h : m.perform (makeWorkdir plan.workdir) = (.ok w, m₁)) (hkeeps : m₁.KeepsFiles m') :
    plan.WorksIn m m' w := by
  cases hplan : plan.workdir with
  | some p =>
    rw [hplan] at h
    obtain ⟨rfl, hensure⟩ := makeWorkdir_named h
    refine ⟨fun q hq => ?_, fun hnone => (by cases hplan.symm.trans hnone), ?_⟩
    · cases hplan.symm.trans hq
      rfl
    · simpa [hplan, Workdir.path] using Machine.isDirectory_ensureDirectory hensure hkeeps
  | none =>
    rw [hplan] at h
    obtain ⟨p, rfl, hfree, hmade⟩ := makeWorkdir_fresh h
    refine ⟨fun q hq => (by cases hplan.symm.trans hq), fun _ => ⟨p, rfl, hfree⟩, ?_⟩
    have hstays := hkeeps.isDirectory_iff (Machine.pathExists_of_isDirectory hmade)
    simpa [hplan, Workdir.path] using hstays.mpr hmade

/-- Looking for what a plan needs changes nothing about where it works. -/
theorem WorksIn.of_logged {plan : ScenarioPlan} {es : List Event} {w : Workdir}
    (h : plan.WorksIn (m.logged es) m' w) : plan.WorksIn m m' w := by
  refine ⟨h.named, h.fresh, h.isDirectory_iff.trans ?_⟩
  constructor
  · exact fun hcan p hp => ⟨(hcan p hp).ne_empty, (hcan p hp).of_exists⟩
  · exact fun hcan p hp => ⟨(hcan p hp).ne_empty, (hcan p hp).of_exists⟩

/-- A prepared plan without a fixture starts once its directory is ensured. -/
theorem exists_start (plan : ScenarioPlan) (m : Machine) {p : Path} {files : FileTree}
    (hprepare : (m.perform plan.prepare).1.toBool = true) (hplan : plan.workdir = some p)
    (hfixture : plan.fixture = none)
    (hensure : ∀ es, (m.logged es).perform (ensureDirectory p) =
      (.ok (), { m.logged es with files })) :
    ∃ s es, m.perform plan.start = (.ok s, { m.logged es with files }) ∧ s.workdir = .fixed p := by
  obtain ⟨r, es, hlogged, -, -⟩ := plan.perform_prepare m
  rw [hlogged] at hprepare
  cases r with
  | error e => cases hprepare
  | ok q =>
    have hmake : (m.logged es).perform (makeWorkdir (some p)) =
        (.ok (.fixed p), { m.logged es with files }) := by
      simp only [makeWorkdir, Machine.perform_bind, Machine.perform_verify, hensure]
      rfl
    have hstart : m.perform plan.start = (m.logged es).perform (plan.establish q) := by
      rw [start_eq_prepare_bind, Machine.perform_bind, hlogged]
    refine ⟨{ format := q.format, generator := q.generator, backend := q.backend
              workdir := .fixed p, configuration := .ofName? q.settings.configuration
              affixes := plan.affixes }, es ++ [.workingIn p], ?_, rfl⟩
    rw [hstart, establish, Machine.perform_bind, hplan, hmake, hfixture, ← m.logged_logged]
    rfl

end ScenarioPlan

/-! ## 3. What is below the root

A plan names a directory below the root, where there is nothing or a file. -/

namespace FileTree

variable {t : FileTree} {directory : Place}

/-- The path of a name below the root begins at the root. -/
theorem begins_new : t.Begins directory ⟨"/new"⟩ [] :=
  ⟨by decide, by decide, by decide, .inl ⟨by decide, rfl⟩⟩

theorem isName_new : IsName "new" := by
  constructor <;> decide

theorem pathExists_new (h : t.lookup? ["new"] = none) :
    t.pathExists directory ⟨"/new"⟩ = false := by
  have hsegments : (Path.mk "/new").segments = ["", "new"] := by decide
  exact pathExists_of_missing (by decide) hsegments isName_new h

theorem makeDirectories_new (h : t.lookup? ["new"] = none) :
    t.makeDirectories directory ⟨"/new"⟩ = (.ok (), t.put ["new"] .directory) := by
  have hwalk : t.walkFrom directory true ⟨"/new"⟩ [""] = .ok [] :=
    walkFrom_eq_ok_iff.mpr ⟨[], begins_new, by simp [walk]⟩
  have hreversed : (Path.mk "/new").segments.reverse.dropWhile (· == "") = ["new", ""] := by
    decide
  have hslot : t.slot directory ⟨"/new"⟩ = .ok ([], .named "new" false) := by
    rw [slot]
    simp only [hreversed]
    rw [show ["new", ""].tail.reverse = [""] from rfl, hwalk]
    rfl
  have hmake : t.makeDirectory directory ⟨"/new"⟩ = .ok (t.put ["new"] .directory) := by
    rw [makeDirectory, hslot]
    simp [isName_new.not_long, h]
  unfold makeDirectories makeDirectoriesUpTo
  rw [if_neg (by decide), hmake]

/-- A file below the root is what its path denotes. -/
theorem entryAt_new_file {data : ByteArray} {executable : Bool}
    (h : t.lookup? ["new"] = some (.file data executable)) :
    t.entryAt directory ⟨"/new"⟩ = .ok (.file data executable) := by
  have hsegments : (Path.mk "/new").segments = ["", "new"] := by decide
  exact entryAt_eq_ok_iff.mpr ⟨[], ["new"], begins_new,
    hsegments ▸ .stay (.inl rfl) (.file isName_new h), h⟩

end FileTree

/-! ## 4. Where a scenario works -/

namespace ScenarioPlan

/-- **Where a scenario works.**  Whenever a directory was ensured, there is one exactly if there
could be: the path is not empty, and what was there is a directory.  A scenario that
was set up works where its plan says, or in a new directory; and that is one exactly if
the plan leaves it open or names what can be one. -/
theorem isDirectory_workdir (plan : ScenarioPlan) (m : Machine) :
    (∀ p m', m.perform (ensureDirectory p) = (.ok (), m') →
      (m'.isDirectory p = true ↔ m.CanBeDirectory p)) ∧
    ∀ s m', m.perform plan.start = (.ok s, m') → plan.WorksIn m m' s.workdir := by
  constructor
  · exact fun p m' h => Machine.isDirectory_ensureDirectory h (KeepsFiles.isCourse.refl m')
  · intro s m' h
    rw [start_eq_prepare_bind] at h
    obtain ⟨p, m₁, hprepare, h⟩ := Machine.perform_bind_ok h
    obtain ⟨r, es, hlogged, -, -⟩ := plan.perform_prepare m
    cases hprepare.symm.trans hlogged
    obtain ⟨w, m₂, hmake, h⟩ := Machine.perform_bind_ok h
    obtain ⟨_, m₃, hlog, h⟩ := Machine.perform_bind_ok h
    cases hlog
    obtain ⟨_, m₄, hstage, h⟩ := Machine.perform_bind_ok h
    cases h
    -- Until the directory is made only the log has changed, and after it files are only added.
    exact (worksIn_of_makeWorkdir hmake
      (KeepsFiles.isCourse.trans (m₂.keepsFiles_logged _) (stageFixture_ok hstage))).of_logged

/-- A directory that is missing is made. -/
theorem isDirectory_workdir_of_absent :
    let plan : ScenarioPlan :=
      { format := some .gypd, generator := some ⟨"/usr/bin/gyp"⟩, workdir := some ⟨"/new"⟩
        directory := some ⟨"/"⟩, settings := some {} }
    let m : Machine := { files := .empty }
    m.CanBeDirectory ⟨"/new"⟩ ∧ ∃ s m', m.perform plan.start = (.ok s, m') ∧
      s.workdir = .fixed ⟨"/new"⟩ ∧ m'.isDirectory ⟨"/new"⟩ = true := by
  intro plan m
  have hfree (es : List Event) : (m.logged es).pathExists ⟨"/new"⟩ = false :=
    FileTree.pathExists_new rfl
  have hcan : m.CanBeDirectory ⟨"/new"⟩ :=
    ⟨by decide, fun h => by cases (hfree []).symm.trans h⟩
  have hensure (es : List Event) : (m.logged es).perform (ensureDirectory ⟨"/new"⟩) =
      (.ok (), { m.logged es with files := m.files.put ["new"] .directory }) := by
    rw [Machine.perform_ensureDirectory, hfree, if_neg Bool.false_ne_true]
    rw [show (m.logged es).files.makeDirectories (m.logged es).directory ⟨"/new"⟩ = _ from
      FileTree.makeDirectories_new rfl]
    rfl
  obtain ⟨s, es, hstart, hworkdir⟩ := exists_start plan m rfl rfl rfl hensure
  refine ⟨hcan, s, _, hstart, hworkdir, ?_⟩
  have hthere := ((isDirectory_workdir plan m).2 s _ hstart).isDirectory_iff.mpr fun p hp => by
    cases hp
    exact hcan
  rwa [hworkdir] at hthere

/-- A file that stands where the directory should be stays a file, and the scenario has been
set up all the same. -/
theorem not_forall_isDirectory_workdir :
    ¬∀ (plan : ScenarioPlan) (m m' : Machine) (s : Scenario),
      m.perform plan.start = (.ok s, m') → m'.isDirectory s.workdir.path = true := by
  intro hall
  let plan : ScenarioPlan :=
    { format := some .gypd, generator := some ⟨"/usr/bin/gyp"⟩, workdir := some ⟨"/new"⟩
      directory := some ⟨"/"⟩, settings := some {} }
  let m : Machine := { files := ⟨[(["new"], .file .empty false)]⟩ }
  have hfile : m.files.entryAt m.directory ⟨"/new"⟩ = .ok (.file .empty false) :=
    FileTree.entryAt_new_file rfl
  have hensure (es : List Event) : (m.logged es).perform (ensureDirectory ⟨"/new"⟩) =
      (.ok (), { m.logged es with files := m.files }) := by
    have hexists : (m.logged es).pathExists ⟨"/new"⟩ = true :=
      FileTree.pathExists_iff.mpr ⟨_, hfile⟩
    rw [Machine.perform_ensureDirectory, hexists, if_pos rfl]
    rfl
  obtain ⟨s, es, hstart, hworkdir⟩ := exists_start plan m rfl rfl rfl hensure
  have hthere := hall plan m _ s hstart
  rw [hworkdir] at hthere
  cases hfile.symm.trans (FileTree.isDirectory_iff.mp hthere)

end ScenarioPlan

end CrossBuild
