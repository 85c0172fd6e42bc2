import CrossBuild.Proofs.Backend.Rejection
import CrossBuild.Proofs.Scenario.Situation

/-!
# What a scenario shows in the course of a run

A scenario shows the output of the last command that left one, in whatever
way the operation that ran it has ended.  An operation that ends before an
output comes back shows nothing new.  Of the scenario itself, a run changes
the variant and the last invocation, so the tool of its first build is the
tool of all of them.

Every step ends in one of a few ways (`Step.Outcome`); `Kept` holds at the
start, every outcome preserves it, and so it holds after any steps.
-/
namespace CrossBuild

/-! ## 1. How a step ends -/

/-- How an operation may end that has an invocation to judge. -/
inductive Judges (i : Invocation) : Except VerifyError Reply → Prop where
  | ok : Judges i (.ok (.invocation i))
  | commandFailed : Judges i (.error (.commandFailed i.command i.output.status i.report))
  | notUpToDate (format : Format) :
    Judges i (.error (.notUpToDate format i.command i.report))

/-- The errors of an operation that has no command to hand over. -/
inductive Refusal : VerifyError → Prop where
  | unsupported (format : Format) (operation : String) : Refusal (.unsupported format operation)
  | toolNotFound (format : Format) (tool : String) (searched : List Path) :
    Refusal (.toolNotFound format tool searched)

/-- How a step ends: what it replies, the commands that it hands over, and what it
leaves of the scenario. -/
inductive Step.Outcome (x : Situation) :
    Step → Except VerifyError Reply → Situation → Prop where
  /-- The output of a command is recorded, whatever the verdict. -/
  | recorded {j : Job} {c : Command} {o : Output} {result : Except VerifyError Reply}
    {y : Situation} (program : j.program? x.scenario = some c.program)
    (handed : y.machine.history = x.machine.history ++ [⟨c, .ok o⟩])
    (scenario : y.scenario = { x.scenario with last := some (.ofOutput c o) })
    (verdict : Judges (.ofOutput c o) result) : Outcome x (.job j) result y
  /-- A command that left no output leaves the scenario as it was. -/
  | failed {j : Job} {c : Command} {failure : Failure} {y : Situation}
    (program : j.program? x.scenario = some c.program)
    (handed : y.machine.history = x.machine.history ++ [⟨c, .error failure⟩])
    (scenario : y.scenario = x.scenario) : Outcome x (.job j) (.error (.other failure)) y
  /-- A job that hands over no command leaves the scenario as it was. -/
  | refused {j : Job} {e : VerifyError} {y : Situation} (cause : Refusal e)
    (handed : y.machine.history = x.machine.history)
    (scenario : y.scenario = x.scenario) : Outcome x (.job j) (.error e) y
  /-- The variant is set. -/
  | configured (name : Option String) : Outcome x (.configure name) (.ok .done)
    { x with scenario := { x.scenario with configuration := .ofName? name } }
  /-- A look at what was built leaves the scenario as it was. -/
  | inquired {q : Inquiry} {result : Except VerifyError Reply} {y : Situation}
    (handed : y.machine.history = x.machine.history)
    (scenario : y.scenario = x.scenario) : Outcome x (.inquire q) result y
  /-- So does a change from outside. -/
  | changed {files : FileTree} {directory : Place} {environment : Environment} {y : Situation}
    (handed : y.machine.history = x.machine.history)
    (scenario : y.scenario = x.scenario) :
    Outcome x (.outside files directory environment) (.ok .done) y

namespace Job

variable {s : Scenario} {m : Machine} {c : Command} {e : VerifyError}

theorem buildCommand?_ok {request : BuildRequest} (h : buildCommand? s m request = .ok c) :
    s.backend.tool.path? = some c.program := by
  unfold buildCommand? at h
  split at h
  · cases h
  · split at h
    · cases h
    · rename_i hp
      cases h
      exact hp

theorem program?_eq {j : Job} (h : j.command? s m = .ok c) : j.program? s = some c.program := by
  cases j with
  | generate project arguments chdir => cases h; rfl
  | build request => exact buildCommand?_ok h
  | verify request => exact buildCommand?_ok h
  | run name options =>
    simp only [command?] at h
    split at h
    · cases h
    · cases h; rfl

theorem buildCommand?_error {request : BuildRequest} (h : buildCommand? s m request = .error e) :
    Refusal e := by
  unfold buildCommand? at h
  split at h
  · cases h; exact .unsupported _ _
  · split at h
    · cases h; exact .toolNotFound _ _ _
    · cases h

theorem refusal {j : Job} (h : j.command? s m = .error e) : Refusal e := by
  cases j with
  | generate project arguments chdir => cases h
  | build request => exact buildCommand?_error h
  | verify request => exact buildCommand?_error h
  | run name options =>
    simp only [command?] at h
    split at h
    · cases h; exact .unsupported _ _
    · cases h

/-- A job concludes with the invocation, or that it failed, or that it did work. -/
theorem judges_conclude (s : Scenario) (j : Job) (i : Invocation) :
    Judges i ((j.conclude s i).map .invocation) := by
  cases j with
  | generate project arguments chdir =>
    rw [conclude, Backend.ensureSuccess_eq]
    split
    · exact .ok
    · exact .commandFailed
  | build request => exact .ok
  | verify request =>
    rw [conclude, Backend.conclude]
    split
    · split
      · exact .ok
      · exact .notUpToDate _
    · exact .commandFailed
  | run name options => exact .ok

end Job

namespace Situation

variable (x : Situation) (executor : Executor)

/-- What a step replies, and the situation after it. -/
def step (s : Step) : Except VerifyError Reply × Situation :=
  x.perform (s.perform executor)

/-- A change from outside keeps the commands handed over so far. -/
theorem perform_change (files : FileTree) (directory : Place) (environment : Environment) :
    x.machine.perform (Step.change files directory environment) =
      (.ok .done, { x.machine with files, directory, environment }) := by
  simp only [Step.change, Machine.perform_bind, Machine.perform_get, Machine.perform_set,
    Machine.perform_pure]

theorem outcome_of_ends {j : Job} {r : Except VerifyError Invocation} {y : Situation}
    (h : j.Ends executor x r y) : Step.Outcome x (.job j) (r.map .invocation) y := by
  cases h with
  | refused es command => exact .refused (Job.refusal command) rfl rfl
  | failed es command outcome =>
    refine .failed (Job.program?_eq command) ?_ rfl
    rw [Machine.answered_history, outcome, Machine.logged_history]
  | recorded es es' command outcome =>
    refine .recorded (Job.program?_eq command) ?_ rfl (Job.judges_conclude _ _ _)
    rw [Machine.logged_history, Machine.answered_history, outcome, Machine.logged_history]

/-- Every step ends in one of these ways. -/
theorem outcome_step (s : Step) : s.Outcome x (x.step executor s).1 (x.step executor s).2 := by
  cases s with
  | job j =>
    have h := x.outcome_of_ends executor (x.ends_job executor j)
    have hs : x.step executor (.job j) =
        ((x.perform (j.perform executor)).1.map .invocation,
          (x.perform (j.perform executor)).2) := by
      simp only [step, Step.perform, perform_bind]
      rcases x.perform (j.perform executor) with ⟨r, y⟩
      cases r <;> rfl
    rw [hs]
    exact h
  | configure name =>
    simp only [step, Step.perform, Scenario.setConfiguration, perform_bind,
      perform_modifyScenario, perform_pure]
    exact .configured name
  | inquire q =>
    have hs : x.step executor (.inquire q) = ((x.machine.perform (q.perform x.scenario)).1,
        { x with machine := (x.machine.perform (q.perform x.scenario)).2 }) := by
      simp only [step, Step.perform, perform_getScenario_bind, perform_onMachine]
    rw [hs]
    exact .inquired (q.runsNothing x.scenario x.machine) rfl
  | outside files directory environment =>
    simp only [step, Step.perform, perform_onMachine, perform_change]
    exact .changed rfl rfl

/-- The situation after some steps. -/
def after (steps : List Step) : Situation :=
  steps.foldl (fun y s => (y.step executor s).2) x

end Situation

/-! ## 2. What a run keeps -/

/-- What a command that left an output is recorded as. -/
def Execution.invocation? (e : Execution) : Option Invocation :=
  e.outcome.toOption.map (.ofOutput e.command)

/-- The last of some commands that left an output. -/
def lastInvocation? (since : List Execution) : Option Invocation :=
  (since.filterMap Execution.invocation?).getLast?

/-- The last output of some commands, or an empty one. -/
def lastOutput (since : List Execution) : Output :=
  ((since.filterMap fun e => e.outcome.toOption).getLast?).getD {}

theorem lastOutput_eq (since : List Execution) :
    lastOutput since = ((lastInvocation? since).map (·.output)).getD {} := by
  have h : (since.filterMap fun e => e.outcome.toOption) =
      (since.filterMap Execution.invocation?).map (·.output) := by
    rw [List.map_filterMap]
    refine congrArg (since.filterMap ·) (funext fun e => ?_)
    cases h : e.outcome <;> simp [Execution.invocation?, h, Except.toOption, Invocation.ofOutput]
  rw [lastOutput, lastInvocation?, h, List.getLast?_map]

theorem lastInvocation?_append (since : List Execution) (e : Execution) :
    lastInvocation? (since ++ [e]) = (e.invocation? <|> lastInvocation? since) := by
  cases h : e.invocation? <;> simp [lastInvocation?, h]

/-- The variant that a step sets, if it sets one. -/
def Step.configures? : Step → Option (Option String)
  | configure name => some name
  | _ => none

/-- The variant that the last of some steps set, or the one of the settings. -/
def chosenName (configured : Option String) (steps : List Step) : Option String :=
  ((steps.filterMap Step.configures?).getLast?).getD configured

theorem chosenName_append (configured : Option String) (steps : List Step) (s : Step) :
    chosenName configured (steps ++ [s]) =
      s.configures?.getD (chosenName configured steps) := by
  cases h : s.configures? <;> simp [chosenName, h]

/-- What holds in the course of a run: `since` are the commands handed over since
the scenario was set up, and only the variant and the last invocation of the
scenario have changed. -/
structure Kept (s₀ : Scenario) (m₁ : Machine) (configured : Option String) (steps : List Step)
    (since : List Execution) (x : Situation) : Prop where
  /-- No command is missing. -/
  history : x.machine.history = m₁.history ++ since
  /-- The two fields that change, and what they are. -/
  scenario : x.scenario =
    { s₀ with
      configuration := .ofName? (chosenName configured steps)
      last := lastInvocation? since }

namespace Kept

variable {s₀ : Scenario} {m₁ : Machine} {configured : Option String} {steps : List Step}
  {since : List Execution} {x : Situation}

/-- A step without a command of which the scenario keeps nothing. -/
theorem unrecorded (h : Kept s₀ m₁ configured steps since x) {s : Step}
    (hs : s.configures? = none) {y : Situation}
    (handed : y.machine.history = x.machine.history) (same : y.scenario = x.scenario) :
    Kept s₀ m₁ configured (steps ++ [s]) (since ++ []) y := by
  constructor
  · rw [handed, h.history, List.append_nil]
  · rw [same, h.scenario, chosenName_append, hs, List.append_nil]
    rfl

/-- Every outcome of a step keeps what holds. -/
theorem of_outcome (h : Kept s₀ m₁ configured steps since x) {s : Step}
    {result : Except VerifyError Reply} {y : Situation} (ho : s.Outcome x result y) :
    ∃ es, Kept s₀ m₁ configured (steps ++ [s]) (since ++ es) y := by
  cases ho with
  | @recorded j c o _ _ program handed shown verdict =>
    refine ⟨[⟨c, .ok o⟩], ?_, ?_⟩
    · rw [handed, h.history, List.append_assoc]
    · rw [shown, h.scenario, chosenName_append, lastInvocation?_append]
      rfl
  | @failed j c failure _ program handed same =>
    refine ⟨[⟨c, .error failure⟩], ?_, ?_⟩
    · rw [handed, h.history, List.append_assoc]
    · rw [same, h.scenario, chosenName_append, lastInvocation?_append]
      rfl
  | refused cause handed same => exact ⟨[], h.unrecorded rfl handed same⟩
  | configured name =>
    refine ⟨[], ?_, ?_⟩
    · rw [h.history, List.append_nil]
    · rw [chosenName_append, List.append_nil]
      simp only [h.scenario, Step.configures?, Option.getD_some]
  | inquired handed same => exact ⟨[], h.unrecorded rfl handed same⟩
  | changed handed same => exact ⟨[], h.unrecorded rfl handed same⟩

/-- It holds after any further steps, by induction on them. -/
theorem after (h : Kept s₀ m₁ configured steps since x) (executor : Executor)
    (further : List Step) :
    ∃ es, Kept s₀ m₁ configured (steps ++ further) (since ++ es) (x.after executor further) := by
  induction further generalizing steps since x with
  | nil => exact ⟨[], by simpa [Situation.after] using h⟩
  | cons s further ih =>
    obtain ⟨es, hs⟩ := h.of_outcome (x.outcome_step executor s)
    obtain ⟨es', hfurther⟩ := ih hs
    refine ⟨es ++ es', ?_⟩
    simpa [Situation.after] using hfurther

end Kept

/-! ## 3. The start of a run -/

/-- The settings that a plan gives or leads to. -/
def ScenarioPlan.readSettings (plan : ScenarioPlan) : Verify Settings := do
  let directory ← plan.startDirectory
  plan.chooseSettings directory

/-- A scenario starts in the variant of its settings, with nothing to show. -/
theorem ScenarioPlan.start_eq {plan : ScenarioPlan} {m₀ m₁ : Machine} {s₀ : Scenario}
    (h : m₀.perform plan.start = (.ok s₀, m₁)) :
    ∃ settings, (m₀.perform plan.readSettings).1 = .ok settings ∧
      s₀.configuration = .ofName? settings.configuration ∧ s₀.last = none := by
  unfold start at h
  obtain ⟨directory, m₂, hdirectory, h⟩ := Machine.perform_bind_ok h
  obtain ⟨settings, m₃, hsettings, h⟩ := Machine.perform_bind_ok h
  refine ⟨settings, ?_, ?_⟩
  · rw [readSettings, Machine.perform_bind, hdirectory]
    exact congrArg Prod.fst hsettings
  · obtain ⟨_, _, -, h⟩ := Machine.perform_bind_ok h
    obtain ⟨format, _, -, h⟩ := Machine.perform_bind_ok h
    obtain ⟨_, _, -, h⟩ := Machine.perform_bind_ok h
    obtain ⟨_, _, -, h⟩ := Machine.perform_bind_ok h
    obtain ⟨backend, _, -, h⟩ := Machine.perform_bind_ok h
    obtain ⟨workdir, _, -, h⟩ := Machine.perform_bind_ok h
    obtain ⟨_, _, -, h⟩ := Machine.perform_bind_ok h
    obtain ⟨_, _, -, h⟩ := Machine.perform_bind_ok h
    rw [Machine.perform_pure] at h
    cases h
    exact ⟨rfl, rfl⟩

/-- Nothing has happened yet when a scenario has been set up. -/
theorem Kept.initial {s₀ : Scenario} {configured : Option String}
    (hconfiguration : s₀.configuration = .ofName? configured) (hlast : s₀.last = none)
    (m₁ : Machine) : Kept s₀ m₁ configured [] [] ⟨s₀, m₁⟩ := by
  constructor
  · rw [List.append_nil]
  · obtain ⟨_, _, _, _, _, _, _⟩ := s₀
    cases hconfiguration
    cases hlast
    rfl

/-- The root is there on every machine. -/
theorem FileTree.pathExists_root (t : FileTree) (directory : Place) :
    t.pathExists directory ⟨"/"⟩ = true := by
  have hsegments : (Path.mk "/").segments = ["", ""] := by decide
  have hwalk : t.walk true linkLimit [] ["", ""] = .ok [] := by simp [walk]
  have hfrom : t.walkFrom directory true ⟨"/"⟩ ["", ""] = .ok [] := by
    rw [walkFrom, if_neg (by decide), if_neg (by decide), if_neg (by decide),
      if_pos (by decide), hwalk]
  simp only [pathExists, entryAt, resolve, hsegments, hfrom]
  rfl

theorem ScenarioPlan.perform_makeWorkdir_root (m : Machine) :
    m.perform (makeWorkdir (some ⟨"/"⟩)) = (.ok (.fixed ⟨"/"⟩), m) := by
  simp only [makeWorkdir, ensureDirectory, Machine.perform_bind, Machine.perform_verify,
    Machine.perform_get, Machine.pathExists, FileTree.pathExists_root, if_true,
    Machine.perform_pure]
  rfl

/-! ## 4. What is shown -/

theorem Configuration.name?_ofName? (name : Option String) :
    (ofName? name).name? = name.filter (· ≠ "") := by
  unfold ofName?
  split
  · rename_i h
    rw [h]
    rfl
  · rename_i h
    cases name with
    | none => rfl
    | some text =>
      have htext : text ≠ "" := fun ht => h (congrArg some ht)
      rw [Option.filter_some, if_pos (decide_eq_true htext)]

/-- What a scenario shows, and what it is, after some steps during which some
commands were handed over. -/
structure Shows (s₀ : Scenario) (configured : Option String) (steps : List Step)
    (since : List Execution) (s : Scenario) : Prop where
  /-- The standard output is that of the last command that left one. -/
  stdout : s.stdout = (lastOutput since).stdout
  /-- So is the standard error. -/
  stderr : s.stderr = (lastOutput since).stderr
  /-- The dump shows the two as they were printed, below a heading. -/
  report : ∃ dump, Report.Shows (lastOutput since) dump ∧
    s.report = "Build is not up-to-date:\n" ++ dump
  /-- The variant is the last one set, or else that of the settings; an empty name is none. -/
  configuration : s.configuration.name? = (chosenName configured steps).filter (· ≠ "")
  /-- Whatever else a scenario has, it keeps from the start. -/
  fixed : s = { s₀ with configuration := s.configuration, last := s.last }
  /-- All builds have the program of the first one. -/
  driver : ∀ request, Job.program? s (.build request) = s₀.backend.tool.path? ∧
    Job.program? s (.verify request) = s₀.backend.tool.path?

theorem Kept.shows {s₀ : Scenario} {m₁ : Machine} {configured : Option String}
    {steps : List Step} {since : List Execution} {x : Situation}
    (h : Kept s₀ m₁ configured steps since x) : Shows s₀ configured steps since x.scenario := by
  have hlast : x.scenario.last = lastInvocation? since := by rw [h.scenario]
  have hstdout : x.scenario.stdout = (lastOutput since).stdout := by
    rw [Scenario.stdout, hlast, lastOutput_eq]
    cases lastInvocation? since <;> rfl
  have hstderr : x.scenario.stderr = (lastOutput since).stderr := by
    rw [Scenario.stderr, hlast, lastOutput_eq]
    cases lastInvocation? since <;> rfl
  constructor
  case stdout => exact hstdout
  case stderr => exact hstderr
  case report =>
    obtain ⟨dump, hshows, hdump⟩ := Report.notUpToDate_shows (lastOutput since)
    exact ⟨dump, hshows, by rw [Scenario.report, hstdout, hstderr, hdump]⟩
  case configuration => rw [h.scenario, Configuration.name?_ofName?]
  case fixed => rw [h.scenario]
  case driver =>
    intro request
    rw [h.scenario]
    exact ⟨rfl, rfl⟩

/-- **What a scenario shows in the course of a run.**  After any steps since it
was set up, a scenario shows the output of the last command that left one,
in the variant that was set last, and is otherwise as it was.  Whatever step
comes next, an output is recorded exactly if one comes back. -/
theorem Scenario.shows_last_output {plan : ScenarioPlan} {m₀ m₁ : Machine} {s₀ : Scenario}
    (h : m₀.perform plan.start = (.ok s₀, m₁)) :
    ∃ settings, (m₀.perform plan.readSettings).1 = .ok settings ∧
      ∀ (executor : Executor) (steps : List Step),
        let x := (⟨s₀, m₁⟩ : Situation).after executor steps
        (∃ since, x.machine.history = m₁.history ++ since ∧
          Shows s₀ settings.configuration steps since x.scenario) ∧
        ∀ s : Step, s.Outcome x (x.step executor s).1 (x.step executor s).2 := by
  obtain ⟨settings, hsettings, hconfiguration, hlast⟩ := ScenarioPlan.start_eq h
  refine ⟨settings, hsettings, fun executor steps => ?_⟩
  intro x
  obtain ⟨since, hkept⟩ := (Kept.initial hconfiguration hlast m₁).after executor steps
  exact ⟨⟨since, hkept.history, hkept.shows⟩, fun s => x.outcome_step executor s⟩

/-- A build that did work when it should have had nothing to do is shown, though
the verification fails. -/
theorem Scenario.shows_last_output_of_work :
    let plan : ScenarioPlan :=
      { format := some .scons, workdir := some ⟨"/"⟩, directory := some ⟨"/"⟩
        generator := some ⟨"/usr/bin/gyp"⟩
        settings := some { tools := { scons := some ⟨"/usr/bin/scons"⟩ } }
        locator := some ⟨none, ⟨"/"⟩⟩ }
    let m₀ : Machine := { files := .empty }
    let executor : Executor := fun m _ => { files := m.files, outcome := .ok { stdout := "cc\n" } }
    let s : Step := .job (.verify { project := ⟨"p.gyp"⟩, target := .all })
    ∃ s₀ m₁, m₀.perform plan.start = (.ok s₀, m₁) ∧
      ((⟨s₀, m₁⟩ : Situation).step executor s).1.toBool = false ∧ ∃ configured since,
        let x := (⟨s₀, m₁⟩ : Situation).after executor [s]
        x.machine.history = m₁.history ++ since ∧ x.scenario.stdout = "cc\n" ∧
          Shows s₀ configured [s] since x.scenario := by
  intro plan m₀ executor s
  have hstart : ∃ generator m₁, m₀.perform plan.start =
      (.ok { format := .scons, generator, backend := .scons (.found ⟨"/usr/bin/scons"⟩)
             configuration := .unset, workdir := .fixed ⟨"/"⟩, affixes := .host }, m₁) := by
    simp only [ScenarioPlan.start, Machine.perform_bind, plan,
      ScenarioPlan.perform_makeWorkdir_root]
    exact ⟨_, _, rfl⟩
  obtain ⟨generator, m₁, hstart⟩ := hstart
  obtain ⟨settings, -, hrun⟩ := Scenario.shows_last_output hstart
  obtain ⟨⟨since, hhistory, hshows⟩, -⟩ := hrun executor [s]
  exact ⟨_, m₁, hstart, rfl, settings.configuration, since, hhistory, rfl, hshows⟩

end CrossBuild
