import CrossBuild.Proofs.Files.Joined
import CrossBuild.Proofs.Scenario.LastOutput

/-!
# The makefile of a build with make

A build with make uses the `Makefile` of the directory that it runs in, and is told
to use the makefile of its project where there is none.  The files are looked at in
every build anew, so a run in which makefiles come and go is no different from a
single build (`Situation.make_hands_over`).

The directory of the command and the path that is looked at are put together from
the same options separately.  That they agree is a statement on the files: where the
path of the directory leads, the name is looked up (`FileTree.pathExists_child_iff`).
-/
namespace CrossBuild

/-! ## 1. Names in a directory -/

namespace FileTree

variable {t : FileTree} {directory place : Place} {p : Path} {name : String}

/-- A name that is joined onto the path of a directory is looked up there. -/
theorem Leads.enters_child (h : t.Leads directory p place) (hname : IsFileName name)
    (hsize : (p.join ⟨name⟩).text.utf8ByteSize < pathLimit) :
    t.Enters directory (p.join ⟨name⟩) place name := by
  obtain ⟨⟨start, hbegins, hway⟩, hthere⟩ := h
  have hrelative : (Path.mk name).isAbsolute = false := Path.isAbsolute_of_isFileName hname
  have hnul : (Path.mk name).hasNul = false :=
    Path.hasNul_relative (r := [name]) (by simpa using hname)
  have hsegments : (Path.mk name).segments = [name] :=
    Path.segments_relative (r := [name]) (by simp) (by simpa using hname)
  obtain ⟨before, hjoin, hbefore⟩ := Path.segments_join hbegins.ne_empty hrelative
  rw [hsegments] at hjoin
  exact ⟨⟨start, before, hbegins.join hrelative hnul hsize, hway.congr hthere hbefore, hjoin⟩,
    hthere, hname.toIsName⟩

/-- It is found if an entry has that name, unless this is a link and leads nowhere. -/
theorem pathExists_child_iff (h : t.Leads directory p place) (hname : IsFileName name)
    (hsize : (p.join ⟨name⟩).text.utf8ByteSize < pathLimit)
    (hplain : ∀ target, t.lookup? (place ++ [name]) ≠ some (.link target)) :
    t.pathExists directory (p.join ⟨name⟩) = true ↔
      (t.lookup? (place ++ [name])).isSome = true := by
  have henters := h.enters_child hname hsize
  cases he : t.lookup? (place ++ [name]) with
  | none => simp [henters.pathExists_of_absent he]
  | some e =>
    have hentry := henters.entryAt he fun target htarget => hplain target (htarget ▸ he)
    simp [pathExists_iff.mpr ⟨e, hentry⟩]

end FileTree

/-! ## 2. Jobs in a run -/

/-- The arguments of a build with make: those of the caller, the variant, the target. -/
theorem Make.plainArguments_eq (configuration : Configuration) (request : BuildRequest) :
    plainArguments configuration request = request.options.arguments ++
      (match configuration.name? with
        | some name => ["BUILDTYPE=" ++ name]
        | none => []) ++
      (match request.target with
        | .default => []
        | .all => ["all"]
        | .named name => [name]) := by
  rw [plainArguments]
  cases configuration.name? <;> cases request.target <;> rfl

namespace Situation

variable {x y : Situation} {executor : Executor} {j : Job}

/-- A job that has a command hands it over, and no other. -/
theorem handed_of_ends {r : Except VerifyError Invocation} {c : Command}
    (h : j.Ends executor x r y) (hcommand : j.command? x.scenario x.machine = .ok c) :
    ∃ outcome, y.machine.history = x.machine.history ++ [⟨c, outcome⟩] := by
  cases h with
  | refused es command => cases hcommand.symm.trans command
  | failed es command outcome =>
    cases hcommand.symm.trans command
    exact ⟨_, rfl⟩
  | recorded es es' command outcome =>
    cases hcommand.symm.trans command
    exact ⟨_, rfl⟩

theorem step_job (x : Situation) (executor : Executor) (j : Job) :
    (x.step executor (.job j)).2 = (x.perform (j.perform executor)).2 := by
  simp only [step, Step.perform, perform_bind]
  rcases x.perform (j.perform executor) with ⟨r, y⟩
  cases r <;> rfl

theorem backend_of_outcome {s : Step} {r : Except VerifyError Reply} (h : s.Outcome x r y) :
    y.scenario.backend = x.scenario.backend := by
  cases h with
  | recorded program handed scenario verdict => rw [scenario]
  | failed program handed scenario => rw [scenario]
  | refused cause handed scenario => rw [scenario]
  | configured name => rfl
  | inquired handed scenario => rw [scenario]
  | changed handed scenario => rw [scenario]

/-- No step changes what builds. -/
theorem backend_after (x : Situation) (executor : Executor) (steps : List Step) :
    (x.after executor steps).scenario.backend = x.scenario.backend := by
  induction steps generalizing x with
  | nil => rfl
  | cons s steps ih =>
    exact (ih (x.step executor s).2).trans (backend_of_outcome (x.outcome_step executor s))

/-! ## 3. Makefiles -/

/-- The two jobs that build a request with make hand over its command. -/
theorem command?_of_make {s : Scenario} {m : Machine} {tool : ToolResolution} {program : Path}
    (hbackend : s.backend = .make tool) (htool : tool.path? = some program)
    {request : BuildRequest} (hj : j = .build request ∨ j = .verify request) :
    j.command? s m = .ok (s.backend.buildCommand s.workspace m request program) := by
  have hbuild : Job.buildCommand? s m request =
      .ok (s.backend.buildCommand s.workspace m request program) := by
    rw [Job.buildCommand?, hbackend, if_neg (by simp)]
    simp only [Backend.tool, htool]
  rcases hj with rfl | rfl
  · exact hbuild
  · have hrequest : s.backend.verificationRequest request = request := by
      rw [hbackend]
      rfl
    rw [Job.command?, hrequest, hbuild]

/-- **When make gets the makefile of a project.**  Whatever has happened in a run, a build
hands over one command, which runs in the directory that its options name.  Its arguments are
those of the caller, the variant and the target; and in front of them the makefile of the
project, unless there is a `Makefile` in that directory by then. -/
theorem make_hands_over (x : Situation) (executor : Executor) (steps : List Step)
    {tool : ToolResolution} {program : Path} (hbackend : x.scenario.backend = .make tool)
    (htool : tool.path? = some program) (request : BuildRequest) {j : Job}
    (hj : j = .build request ∨ j = .verify request) :
    let y := x.after executor steps
    let directory := y.scenario.workspace.runDirectory request.options.chdir
    let makefile := directory.join ⟨"Makefile"⟩
    let arguments := request.options.arguments ++
      (match y.scenario.configuration.name? with
        | some name => ["BUILDTYPE=" ++ name]
        | none => []) ++
      (match request.target with
        | .default => []
        | .all => ["all"]
        | .named name => [name])
    let c : Command :=
      { program, directory := some directory
        arguments :=
          if y.machine.pathExists makefile then arguments
          else ["-f", (request.project.withExtension "Makefile").text] ++ arguments }
    (∃ outcome, (y.step executor (.job j)).2.machine.history =
      y.machine.history ++ [⟨c, outcome⟩]) ∧
    ∀ place, y.machine.files.Leads y.machine.directory directory place →
      makefile.text.utf8ByteSize < FileTree.pathLimit →
      (∀ target, y.machine.files.lookup? (place ++ ["Makefile"]) ≠ some (.link target)) →
      (y.machine.pathExists makefile = true ↔
        (y.machine.files.lookup? (place ++ ["Makefile"])).isSome = true) := by
  intro y directory makefile arguments c
  have hy : y.scenario.backend = .make tool := (x.backend_after executor steps).trans hbackend
  constructor
  · have hc : y.scenario.backend.buildCommand y.scenario.workspace y.machine request program =
        c := by
      rw [hy, Backend.buildCommand, Backend.arguments, Make.arguments, Make.plainArguments_eq]
      have hfinds : (Backend.make tool).findsMakefile y.scenario.workspace y.machine
          request.options = y.machine.pathExists makefile := rfl
      simp only [c, hfinds]
      cases y.machine.pathExists makefile <;> rfl
    rw [step_job]
    exact handed_of_ends (y.ends_job executor j) (hc ▸ command?_of_make hy htool hj)
  · intro place hleads hsize hplain
    exact FileTree.pathExists_child_iff hleads (by decide) hsize hplain

/-- A makefile that comes in the course of a run is used from then on. -/
theorem make_hands_over_of_new_makefile :
    let t : FileTree := ⟨[(["w"], .directory), (["w", "src"], .directory)]⟩
    let t' := t.put ["w", "src", "Makefile"] (.file ByteArray.empty false)
    let x : Situation :=
      { scenario :=
          { format := .make, generator := ⟨"/usr/bin/gyp"⟩
            backend := .make (.found ⟨"/usr/bin/make"⟩), configuration := .unset
            workdir := .fixed ⟨"/w"⟩, affixes := .unix }
        machine := { files := t } }
    let executor : Executor := fun m _ => { files := m.files, outcome := .ok {} }
    let request : BuildRequest :=
      { project := ⟨"sub/p.gyp"⟩, target := .all, options := { chdir := some ⟨"src"⟩ } }
    let Hands (steps : List Step) (arguments : List String) : Prop :=
      let y := x.after executor steps
      ∃ c outcome, (y.step executor (.job (.build request))).2.machine.history =
        y.machine.history ++ [⟨c, outcome⟩] ∧ c.arguments = arguments
    Hands [] ["-f", "sub/p.Makefile", "all"] ∧ Hands [.outside t' [] []] ["all"] := by
  intro t t' x executor request Hands
  let makefile := (x.scenario.workspace.runDirectory request.options.chdir).join ⟨"Makefile"⟩
  have hmakefile : makefile = (Path.mk "/w/src").join ⟨"Makefile"⟩ := by decide
  have hfound (t : FileTree) (hsound : t.Sound)
      (hdirectory : t.lookup? ["w", "src"] = some .directory)
      (hentries : ∀ y ∈ t.entries, ∀ target, y.2 ≠ .link target) :
      t.pathExists [] makefile = true ↔ (t.lookup? ["w", "src", "Makefile"]).isSome = true := by
    have hleads : t.Leads [] ⟨"/w/src"⟩ ["w", "src"] :=
      hsound.leads (FileTree.begins_of_isAbsolute (by decide) (by decide) (by decide)) (by decide)
        hdirectory
    rw [hmakefile]
    exact FileTree.pathExists_child_iff hleads (by decide) (by decide)
      (FileTree.lookup?_ne_link hentries _)
  constructor
  · obtain ⟨⟨outcome, hhistory⟩, -⟩ := x.make_hands_over executor [] rfl rfl request (.inl rfl)
    have hsound : t.Sound := FileTree.sound_of_entries (by decide) (by decide)
    have habsent : ¬x.machine.pathExists makefile = true :=
      mt (hfound t hsound (by decide) (by simp [t])).mp (by decide)
    have hx : x.after executor [] = x := rfl
    refine ⟨_, outcome, hhistory, ?_⟩
    simp only [hx]
    rw [if_neg habsent]
    decide
  · obtain ⟨⟨outcome, hhistory⟩, -⟩ :=
      x.make_hands_over executor [.outside t' [] []] rfl rfl request (.inl rfl)
    have hsound : t'.Sound := FileTree.sound_of_entries (by decide) (by decide)
    let y : Situation := { x with machine := { x.machine with files := t' } }
    have hthere : y.machine.pathExists makefile = true :=
      (hfound t' hsound (by decide) (by simp [t', t, FileTree.put])).mpr (by decide)
    have hy : x.after executor [.outside t' [] []] = y := rfl
    refine ⟨_, outcome, hhistory, ?_⟩
    simp only [hy]
    rw [if_pos hthere]
    rfl

end Situation

end CrossBuild
