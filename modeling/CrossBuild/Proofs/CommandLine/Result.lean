import CrossBuild.Proofs.CommandLine.Availability
import CrossBuild.Proofs.Files.Directory
import CrossBuild.Proofs.Scenario.LastOutput

/-!
# Results of command lines

A task that opens a scenario has one job to do in it (`Task.job?`), and the job hands over at
most one command (`CommandLine.Attempts`).  All of that is done on the machine; what is left
for the program is to print, and it does not fail then (`CommandLine.perform_of_opens`).  So
whatever a task may miss, it misses before it prints (`CommandLine.failsSilently_perform`).

A listing and a check open no scenario, but they read the settings of the current directory.
Without one they fail by themselves, and it is the only way to fail that is not the error of a
verification (`CommandLine.result_eq_system_iff`).
-/
namespace CrossBuild

/-! ## 1. What is printed -/

namespace Terminal

/-- The lines of the log that some events make. -/
def logText (verbose : Bool) (es : List Event) : String :=
  String.join ((es.filter (Event.isShown verbose)).map Event.line)

/-- The terminal after everything logged so far is shown. -/
def caughtUp (t : Terminal) (m : Machine) : Terminal :=
  { t with
    stderr := t.stderr ++ logText t.verbose (m.events.drop t.shown)
    shown := m.events.length }

/-- The terminal after an output is printed. -/
def echoed (t : Terminal) (m : Machine) (o : Output) : Terminal where
  verbose := t.verbose
  stdout := t.stdout ++ o.stdout
  stderr := (t.caughtUp m).stderr ++ o.stderr
  shown := m.events.length

end Terminal

namespace Machine

variable {α β : Type} (m : Machine) (t : Terminal)

theorem performProgram_bind (p : Program α) (k : α → Program β) :
    m.performProgram t (p >>= k) =
      match m.performProgram t p with
      | ((.ok a, t'), m') => m'.performProgram t' (k a)
      | ((.error e, t'), m') => ((.error e, t'), m') := by
  simp only [performProgram, ExceptT.run_bind, StateT.run_bind, Id.run_bind]
  rcases Id.run (StateT.run (StateT.run p.run t) m) with ⟨⟨r, t'⟩, m'⟩
  cases r <;> rfl

@[simp] theorem performProgram_pure (a : α) :
    m.performProgram t (pure a : Program α) = ((.ok a, t), m) := rfl

@[simp] theorem performProgram_onMachine (v : Verify α) :
    m.performProgram t (CommandLine.onMachine v) =
      (((m.perform v).1.mapError .verification, t), (m.perform v).2) := rfl

@[simp] theorem performProgram_log (e : Event) :
    m.performProgram t (liftM (log e : MachineM Unit) : Program Unit) =
      ((.ok (), t), m.logged [e]) := rfl

@[simp] theorem performProgram_echo (i : Invocation) :
    m.performProgram t (liftM (CommandLine.echo i) : Program Unit) =
      ((.ok (), t.echoed m i.output), m) := rfl

end Machine

/-! ## 2. Preparations -/

/-- A course of a machine that hands over no command, and of the log only adds to it. -/
structure Machine.Prepares (m m' : Machine) : Prop where
  history : m'.history = m.history
  events : m.events <+: m'.events

namespace Machine.Prepares

theorem isCourse : IsCourse Prepares where
  refl _ := ⟨rfl, List.prefix_rfl⟩
  trans h h' := ⟨h'.history.trans h.history, h.events.trans h'.events⟩

theorem logged (m : Machine) (es : List Event) : m.Prepares (m.logged es) :=
  ⟨rfl, List.prefix_append _ _⟩

theorem ensureDirectory (p : Path) : Advances Prepares (ensureDirectory p) := by
  intro m
  rw [Machine.perform_ensureDirectory]
  split
  · exact isCourse.refl m
  · exact ⟨rfl, List.prefix_rfl⟩

end Machine.Prepares

namespace CommandLine

open Machine (Prepares)

/-- A scenario without a fixture is set up without a command. -/
theorem prepares_start {plan : ScenarioPlan} {p : Path} (hworkdir : plan.workdir = some p)
    (hfixture : plan.fixture = none) : Advances Prepares plan.start := by
  have hprepare : Advances Prepares plan.prepare := by
    intro m
    obtain ⟨r, es, hprepare, -⟩ := plan.perform_prepare m
    rw [hprepare]
    exact .logged m es
  have hmake : Advances Prepares (ScenarioPlan.makeWorkdir plan.workdir) := by
    rw [hworkdir]
    exact .bind Prepares.isCourse (Prepares.ensureDirectory p).verify fun _ =>
      Prepares.isCourse.refl
  rw [ScenarioPlan.start_eq_prepare_bind]
  refine .bind Prepares.isCourse hprepare fun q => ?_
  refine .bind Prepares.isCourse hmake fun w => ?_
  refine .bind Prepares.isCourse (fun m => .logged m _) fun _ => ?_
  rw [hfixture]
  exact .bind Prepares.isCourse Prepares.isCourse.refl fun _ => Prepares.isCourse.refl

theorem prepares_openScenario (c : CommandLine) (configuration : Option String) :
    Advances Prepares (c.openScenario configuration) := by
  intro m
  cases hd : m.currentDirectory with
  | error e =>
    have h : m.perform (c.openScenario configuration) = (.error (.io e), m) := by
      rw [openScenario, Machine.perform_bind, perform_currentDirectory, hd]
      rfl
    rw [h]
    exact Prepares.isCourse.refl m
  | ok directory =>
    rw [perform_openScenario hd]
    cases c.plannedFormat with
    | error e => exact Prepares.isCourse.refl m
    | ok format =>
      have hstart : Advances Prepares (c.plan directory format).start := prepares_start rfl rfl
      exact hstart m

end CommandLine

/-! ## 3. Jobs -/

/-- What a task does with the scenario that it opens, if that is to run a command. -/
def Task.job? : Task → Option Job
  | build task => some (.build task.request)
  | upToDate task => some (.verify task.request)
  | run task => some (.run task.name task.options)
  | formats _ | check _ | path _ | completions _ => none

/-- Whether a task passes on what its command prints. -/
def Task.echoes : Task → Bool
  | build _ | run _ => true
  | formats _ | check _ | upToDate _ | path _ | completions _ => false

/-- A task that opens no scenario, and needs the current directory all the same: it lists the
formats, or checks one. -/
inductive Task.NeedsDirectory : Task → Prop where
  | formats (json : Bool) : NeedsDirectory (.formats json)
  | check {text : String} {format : Format} (names : Format.parse? text = some format) :
    NeedsDirectory (.check text)

theorem Task.NeedsDirectory.opens?_eq_none {task : Task} (h : task.NeedsDirectory) :
    task.opens? = none := by
  cases h with
  | formats | check => rfl

namespace CommandLine

/-- A job in the scenario that a command line opens. -/
def attempt (executor : Executor) (c : CommandLine) (configuration : Option String) (j : Job) :
    Verify Invocation := do
  let s ← c.openScenario configuration
  onScenario s (j.perform executor)

/-- How a job in a new scenario ends: in an error, or with what is concluded from the output
of the one command that was handed over. -/
inductive Attempts (c : CommandLine) (configuration : Option String) (j : Job) (m : Machine) :
    Except VerifyError Invocation → Machine → Prop where
  /-- No command has left an output. -/
  | failed {e : VerifyError} {m' : Machine}
    (unanswered : ∀ command o, m'.history ≠ m.history ++ [⟨command, .ok o⟩]) :
    Attempts c configuration j m (.error e) m'
  /-- The command of the job has left one. -/
  | answered {s : Scenario} {m₁ m' : Machine} {command : Command} {o : Output}
    (opened : m.perform (c.openScenario configuration) = (.ok s, m₁))
    (given : j.command? s m₁ = .ok command)
    (handed : m'.history = m.history ++ [⟨command, .ok o⟩]) :
    Attempts c configuration j m (j.conclude s (.ofOutput command o)) m'

theorem perform_onScenario {α : Type} (m : Machine) (s : Scenario) (operation : ScenarioM α) :
    m.perform (onScenario s operation) =
      (((⟨s, m⟩ : Situation).perform operation).1,
        ((⟨s, m⟩ : Situation).perform operation).2.machine) := rfl

theorem attempts_attempt (executor : Executor) (c : CommandLine) (configuration : Option String)
    (j : Job) (m : Machine) :
    Attempts c configuration j m (m.perform (c.attempt executor configuration j)).1
        (m.perform (c.attempt executor configuration j)).2 ∧
      m.events <+: (m.perform (c.attempt executor configuration j)).2.events := by
  have hopen := prepares_openScenario c configuration m
  rw [attempt, Machine.perform_bind]
  rcases hopened : m.perform (c.openScenario configuration) with ⟨r, m₁⟩
  rw [hopened] at hopen
  have hhistory : m₁.history = m.history := hopen.history
  have hnone {m' : Machine} (h : m'.history = m₁.history) (command : Command) (o : Output) :
      m'.history ≠ m.history ++ [⟨command, .ok o⟩] := by
    simp [h, hhistory]
  cases r with
  | error e => exact ⟨.failed (hnone rfl), hopen.events⟩
  | ok s =>
    simp only [perform_onScenario]
    have hends := (⟨s, m₁⟩ : Situation).ends_job executor j
    simp only at hends
    generalize (⟨s, m₁⟩ : Situation).perform (j.perform executor) = x at hends ⊢
    obtain ⟨result, y⟩ := x
    cases hends with
    | refused es given =>
      exact ⟨.failed (hnone rfl), hopen.events.trans (List.prefix_append _ _)⟩
    | @failed command failure es given outcome =>
      refine ⟨.failed fun command o => ?_, ?_⟩
      · simp [outcome, hhistory]
      · exact hopen.events.trans ((List.prefix_append _ es).trans (List.prefix_append _ _))
    | @recorded command o es es' given outcome =>
      refine ⟨.answered hopened given ?_, ?_⟩
      · simp [outcome, hhistory]
      · exact hopen.events.trans ((List.prefix_append _ es).trans
          ((List.prefix_append _ _).trans (List.prefix_append _ es')))

/-- The command of a job in an opened scenario is handed over, and the record ends with it. -/
theorem history_attempt (executor : Executor) {c : CommandLine} {configuration : Option String}
    {j : Job} {m m₁ : Machine} {s : Scenario} {command : Command}
    (hopened : m.perform (c.openScenario configuration) = (.ok s, m₁))
    (hgiven : j.command? s m₁ = .ok command) :
    ∃ es, (m.perform (c.attempt executor configuration j)).2.history =
      m.history ++ [⟨command, (executor (m₁.logged es) command).outcome⟩] := by
  have hprepares := prepares_openScenario c configuration m
  rw [hopened] at hprepares
  have hhistory : m₁.history = m.history := hprepares.history
  rw [attempt, Machine.perform_bind, hopened]
  simp only [perform_onScenario]
  have hends := (⟨s, m₁⟩ : Situation).ends_job executor j
  simp only at hends
  generalize (⟨s, m₁⟩ : Situation).perform (j.perform executor) = x at hends ⊢
  obtain ⟨result, y⟩ := x
  cases hends with
  | refused es refusal => cases refusal.symm.trans hgiven
  | failed es given outcome =>
    cases given.symm.trans hgiven
    exact ⟨es, by simp [hhistory]⟩
  | recorded es es' given outcome =>
    cases given.symm.trans hgiven
    exact ⟨es, by simp [hhistory]⟩

/-! ## 4. Conclusions -/

/-- What a command line prints and ends with, and the machine that it leaves, is told by its
program. -/
theorem run_eq (executor : Executor) (color : Bool) (c : CommandLine) (m : Machine) :
    run executor color c m =
      match m.performProgram { verbose := c.verbose, shown := m.events.length }
        (c.perform executor) with
      | ((.ok status, t), m') =>
        ({ exit := status, stdout := t.stdout, stderr := (t.caughtUp m').stderr }, m')
      | ((.error e, t), m') =>
        ({ exit := e.exitStatus
           stdout := t.stdout
           stderr := (t.caughtUp m').stderr ++ e.text (color && !c.noColor) },
          m') := by
  have hrun : run executor color c m =
      (let x := Id.run (StateT.run (StateT.run ((c.perform executor).run >>=
        conclude (color && !c.noColor)) { verbose := c.verbose, shown := m.events.length }) m)
      ({ exit := x.1.1, stdout := x.1.2.stdout, stderr := x.1.2.stderr }, x.2)) := rfl
  rw [hrun, Machine.performProgram]
  simp only [StateT.run_bind, Id.run_bind]
  rcases Id.run (StateT.run (StateT.run (c.perform executor).run
    { verbose := c.verbose, shown := m.events.length }) m) with ⟨⟨r, t'⟩, m'⟩
  cases r <;> rfl

/-- What the program of a command line ends with. -/
def result (executor : Executor) (c : CommandLine) (m : Machine) : Except ProgramError Int :=
  (m.performProgram { verbose := c.verbose, shown := m.events.length } (c.perform executor)).1.1

/-- A build and a run go on to print the output, and end with the status, of their command. -/
theorem perform_eq_echo (executor : Executor) {c : CommandLine} (h : c.task.echoes = true) :
    ∃ configuration j k, c.task.opens? = some configuration ∧ c.task.job? = some j ∧
      c.perform executor = onMachine (c.attempt executor configuration j) >>= k ∧
      (∀ s i, j.conclude s i = .ok i) ∧
      ∀ (m : Machine) (t : Terminal) (i : Invocation), ∃ es, m.performProgram t (k i) =
        ((.ok (statusOf i), t.echoed m i.output), m.logged es) := by
  rw [perform]
  cases htask : c.task with
  | build task =>
    refine ⟨task.configuration, .build task.request, _, rfl, rfl, rfl, fun _ _ => rfl,
      fun m t i => ?_⟩
    rw [Machine.performProgram_bind, Machine.performProgram_echo]
    simp only
    split
    · rename_i hsuccess
      refine ⟨[], ?_⟩
      have hstatus : statusOf i = 0 := by
        rw [Invocation.success, Output.success, beq_iff_eq] at hsuccess
        rw [statusOf, hsuccess, Option.getD_some]
      rw [hstatus, Machine.logged_nil, Machine.performProgram_pure]
    · exact ⟨_, rfl⟩
  | run task =>
    refine ⟨task.configuration, .run task.name task.options, _, rfl, rfl, rfl, fun _ _ => rfl,
      fun m t i => ⟨[], ?_⟩⟩
    rw [Machine.performProgram_bind, Machine.performProgram_echo, Machine.logged_nil]
    rfl
  | formats | check | upToDate | path | completions => simp [htask, Task.echoes] at h

theorem perform_upToDate_eq (executor : Executor) {c : CommandLine} {task : BuildTask}
    (h : c.task = .upToDate task) :
    c.perform executor =
      onMachine (c.attempt executor task.configuration (.verify task.request)) >>= fun i =>
        onMachine do
          log (.upToDate i.command)
          return 0 := by
  rw [← onMachine_bind, perform, h, attempt, bind_assoc]
  rfl

/-- A task with a job is the job and something to follow it, which prints and logs, and does
not fail. -/
theorem perform_eq_attempt (executor : Executor) {c : CommandLine} {configuration : Option String}
    {j : Job} (hopens : c.task.opens? = some configuration) (hjob : c.task.job? = some j) :
    ∃ k, c.perform executor = onMachine (c.attempt executor configuration j) >>= k ∧
      ∀ (m : Machine) (t : Terminal) (i : Invocation), ∃ status t' es,
        m.performProgram t (k i) = ((.ok status, t'), m.logged es) := by
  cases htask : c.task with
  | build task | run task =>
    obtain ⟨configuration', j', k, hopens', hjob', hperform, -, hk⟩ :=
      perform_eq_echo executor (c := c) (by rw [htask]; rfl)
    cases hopens.symm.trans hopens'
    cases hjob.symm.trans hjob'
    exact ⟨k, hperform, fun m t i => ⟨_, _, hk m t i⟩⟩
  | upToDate task =>
    rw [htask] at hopens hjob
    cases hopens
    cases hjob
    exact ⟨_, perform_upToDate_eq executor htask, fun m t i => ⟨_, _, _, rfl⟩⟩
  | formats | check | path | completions =>
    rw [htask] at hjob
    cases hjob

/-- A program that does not fail, whatever it prints. -/
def Finishes {α : Type} (p : Program α) : Prop :=
  ∀ (m : Machine) (t : Terminal), ∃ a, (m.performProgram t p).1.1 = .ok a

/-- Whatever opens a scenario does its work on the machine, and then only prints. -/
theorem perform_of_opens (executor : Executor) {c : CommandLine} {configuration : Option String}
    (hopens : c.task.opens? = some configuration) :
    ∃ (α : Type) (v : Verify α) (k : α → Program Int),
      c.perform executor = onMachine v >>= k ∧ ∀ a, Finishes (k a) := by
  have hjob {j : Job} (hjob : c.task.job? = some j) : ∃ (α : Type) (v : Verify α)
      (k : α → Program Int), c.perform executor = onMachine v >>= k ∧ ∀ a, Finishes (k a) := by
    obtain ⟨k, hperform, hk⟩ := perform_eq_attempt executor hopens hjob
    refine ⟨_, _, k, hperform, fun i m t => ?_⟩
    obtain ⟨status, _, _, hlast⟩ := hk m t i
    exact ⟨status, by rw [hlast]⟩
  cases htask : c.task with
  | build | upToDate | run => exact hjob (by rw [htask]; rfl)
  | path task =>
    rw [perform, htask]
    exact ⟨_, _, _, rfl, fun s m t => ⟨0, rfl⟩⟩
  | formats | check | completions =>
    rw [htask] at hopens
    cases hopens

/-- A program that has printed nothing by the time it fails. -/
def FailsSilently {α : Type} (p : Program α) : Prop :=
  ∀ (m : Machine) (t : Terminal) (e : ProgramError),
    (m.performProgram t p).1.1 = .error e → (m.performProgram t p).1.2 = t

namespace FailsSilently

variable {α β : Type}

theorem of_finishes {p : Program α} (h : Finishes p) : FailsSilently p := by
  intro m t e he
  obtain ⟨a, ha⟩ := h m t
  cases ha.symm.trans he

theorem throw (e : ProgramError) : FailsSilently (throw e : Program α) := fun _ _ _ _ => rfl

theorem bind_onMachine (v : Verify α) {k : α → Program β} (hk : ∀ a, FailsSilently (k a)) :
    FailsSilently (onMachine v >>= k) := by
  intro m t e
  rw [performProgram_onMachine_bind]
  rcases m.perform v with ⟨r, m'⟩
  cases r with
  | error e' => exact fun _ => rfl
  | ok a => exact hk a m' t e

theorem bind_processDirectory {k : Path → Program β}
    (hk : ∀ directory, FailsSilently (k directory)) :
    FailsSilently (processDirectory >>= k) := by
  intro m t e
  rw [performProgram_processDirectory_bind]
  cases m.currentDirectory with
  | error e' => exact fun _ => rfl
  | ok directory => exact hk directory m t e

end FailsSilently

/-- Whatever a task may miss, it misses before it prints. -/
theorem failsSilently_perform (executor : Executor) (c : CommandLine) :
    FailsSilently (c.perform executor) := by
  cases hopens : c.task.opens? with
  | some configuration =>
    obtain ⟨_, v, k, hperform, hk⟩ := perform_of_opens executor hopens
    rw [hperform]
    exact .bind_onMachine v fun a => .of_finishes (hk a)
  | none =>
    rw [perform]
    cases htask : c.task with
    | formats json =>
      exact .bind_processDirectory fun directory => .bind_onMachine _ fun entries =>
        .of_finishes fun m t => ⟨0, rfl⟩
    | check text =>
      refine .bind_onMachine _ fun format => .bind_processDirectory fun directory =>
        .bind_onMachine _ fun summary => ?_
      split
      · exact .of_finishes fun m t => ⟨0, rfl⟩
      · exact .throw _
    | completions shell => exact .of_finishes fun m t => ⟨0, rfl⟩
    | build | upToDate | path | run => simp [htask, Task.opens?] at hopens

/-- A program that fails only with the errors of verifications. -/
def FailsVerified {α : Type} (p : Program α) : Prop :=
  ∀ (m : Machine) (t : Terminal) (cause : FileError),
    (m.performProgram t p).1.1 ≠ .error (.system cause)

namespace FailsVerified

variable {α β : Type}

theorem of_finishes {p : Program α} (h : Finishes p) : FailsVerified p := by
  intro m t cause hcause
  obtain ⟨a, ha⟩ := h m t
  cases ha.symm.trans hcause

theorem throw (e : VerifyError) : FailsVerified (throw (.verification e) : Program α) := by
  intro m t cause hcause
  cases hcause

theorem bind_onMachine (v : Verify α) {k : α → Program β} (hk : ∀ a, FailsVerified (k a)) :
    FailsVerified (onMachine v >>= k) := by
  intro m t cause
  rw [performProgram_onMachine_bind]
  rcases m.perform v with ⟨r, m'⟩
  cases r with
  | error e => simp
  | ok a => exact hk a m' t cause

/-- What asks for the current directory fails by itself if there is none, and goes on if there
is one. -/
theorem processDirectory_bind_eq_system_iff {k : Path → Program β}
    (hk : ∀ directory, FailsVerified (k directory)) (m : Machine) (t : Terminal)
    (cause : FileError) :
    (m.performProgram t (processDirectory >>= k)).1.1 = .error (.system cause) ↔
      m.currentDirectory = .error cause := by
  rw [performProgram_processDirectory_bind]
  cases m.currentDirectory with
  | error e => simp
  | ok directory => simp [hk directory m t cause]

end FailsVerified

/-- A task that needs the current directory by itself fails without one, and whatever else fails
is a verification. -/
theorem result_eq_system_iff (executor : Executor) (c : CommandLine) (m : Machine)
    (cause : FileError) : result executor c m = .error (.system cause) ↔
      c.task.NeedsDirectory ∧ m.currentDirectory = .error cause := by
  rw [result]
  cases hopens : c.task.opens? with
  | some configuration =>
    obtain ⟨_, v, k, hperform, hk⟩ := perform_of_opens executor hopens
    have hverified := FailsVerified.bind_onMachine v fun a => .of_finishes (hk a)
    rw [hperform]
    refine iff_of_false (hverified m _ cause) ?_
    rintro ⟨hneeds, -⟩
    cases hopens.symm.trans hneeds.opens?_eq_none
  | none =>
    rw [perform]
    cases htask : c.task with
    | completions shell =>
      refine iff_of_false (FailsVerified.of_finishes (fun m t => ⟨0, rfl⟩) m _ cause) ?_
      rintro ⟨hneeds, -⟩
      cases hneeds
    | formats json =>
      exact (FailsVerified.processDirectory_bind_eq_system_iff (fun directory =>
        .bind_onMachine _ fun entries => .of_finishes fun m t => ⟨0, rfl⟩) m _ cause).trans
          (iff_and_self.mpr fun _ => .formats json)
    | check text =>
      simp only [checkFormat, readFormat, performProgram_onMachine_bind,
        Machine.perform_liftExcept]
      cases hparse : Format.parse? text with
      | none =>
        refine iff_of_false (by simp) ?_
        rintro ⟨hneeds, -⟩
        cases hneeds with
        | check names => cases hparse.symm.trans names
      | some format =>
        refine (FailsVerified.processDirectory_bind_eq_system_iff (fun directory =>
          .bind_onMachine _ fun summary => ?_) m _ cause).trans
            (iff_and_self.mpr fun _ => .check hparse)
        split
        · exact .of_finishes fun m t => ⟨0, rfl⟩
        · exact .throw _
    | build | upToDate | path | run =>
      rw [htask] at hopens
      cases hopens

/-- A task with a job hands over no command but that of the job. -/
theorem history_run (executor : Executor) (color : Bool) {c : CommandLine} (m : Machine)
    {configuration : Option String} {j : Job} (hopens : c.task.opens? = some configuration)
    (hjob : c.task.job? = some j) :
    (run executor color c m).2.history =
      (m.perform (c.attempt executor configuration j)).2.history := by
  obtain ⟨k, hperform, hk⟩ := perform_eq_attempt executor hopens hjob
  rw [run_eq, hperform, performProgram_onMachine_bind]
  rcases m.perform (c.attempt executor configuration j) with ⟨r, m'⟩
  cases r with
  | error e => rfl
  | ok i =>
    obtain ⟨status, t', es, hlast⟩ :=
      hk m' { verbose := c.verbose, shown := m.events.length } i
    simp only [hlast]
    rfl

end CommandLine

end CrossBuild
