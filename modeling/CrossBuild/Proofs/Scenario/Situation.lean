import CrossBuild.Proofs.Backend.Verdict
import CrossBuild.Scenario

/-!
# A scenario under way

A scenario and its machine change together (`Situation`).  What can happen to
them is a `Step`: a job, which hands over a command; another variant; a
look at what was built; or a change of the machine from outside.

`Situation.ends_job` says all that a job does.  It is refused, or it
hands over one command; an output that comes back is recorded before
anything is concluded from it.
-/
namespace CrossBuild

/-- A scenario with the machine that it runs on. -/
structure Situation where
  /-- The scenario. -/
  scenario : Scenario
  /-- The machine. -/
  machine : Machine

namespace Situation

variable {α β : Type} (x : Situation)

/-! ## 1. The parts of an operation -/

/-- What an operation ends with, and the situation that it leaves. -/
def perform (t : ScenarioM α) : Except VerifyError α × Situation :=
  let r := Id.run (StateT.run (StateT.run t.run x.scenario) x.machine)
  (r.1.1, ⟨r.1.2, r.2⟩)

@[simp] theorem perform_pure (a : α) : x.perform (pure a) = (.ok a, x) := rfl

@[simp] theorem perform_getScenario : x.perform (getThe Scenario) = (.ok x.scenario, x) := rfl

@[simp] theorem perform_modifyScenario (f : Scenario → Scenario) :
    x.perform (modifyThe Scenario f) = (.ok (), { x with scenario := f x.scenario }) := rfl

@[simp] theorem perform_record (i : Invocation) :
    x.perform (Scenario.record i) =
      (.ok (), { x with scenario := { x.scenario with last := some i } }) := rfl

@[simp] theorem perform_liftExcept (r : Except VerifyError α) :
    x.perform (liftM r) = (r, x) := by
  cases r <;> rfl

@[simp] theorem perform_onMachine (v : Verify α) :
    x.perform (Scenario.onMachine v) =
      ((x.machine.perform v).1, { x with machine := (x.machine.perform v).2 }) := rfl

/-- An operation after another one starts where the first one ends, and only if
that one succeeds. -/
theorem perform_bind (t : ScenarioM α) (f : α → ScenarioM β) :
    x.perform (t >>= f) =
      match x.perform t with
      | (.ok a, y) => y.perform (f a)
      | (.error e, y) => (.error e, y) := by
  simp only [perform, ExceptT.run_bind, StateT.run_bind, Id.run_bind]
  rcases Id.run (StateT.run (StateT.run t.run x.scenario) x.machine) with ⟨⟨r, s⟩, m⟩
  cases r <;> rfl

theorem perform_getScenario_bind (f : Scenario → ScenarioM α) :
    x.perform (getThe Scenario >>= f) = x.perform (f x.scenario) := by
  rw [perform_bind, perform_getScenario]

end Situation

/-! ## 2. Steps -/

/-- An operation that hands over a command. -/
inductive Job where
  /-- Runs the generator. -/
  | generate (project : Path) (arguments : List String) (chdir : Option Path)
  /-- Builds. -/
  | build (request : BuildRequest)
  /-- Builds again, with nothing to do. -/
  | verify (request : BuildRequest)
  /-- Runs a built program. -/
  | run (name : String) (options : RunOptions)

/-- An operation that looks at what was built, or moves it. -/
inductive Inquiry where
  | artifactPath (artifact : Artifact)
  | fileName (name : String) (kind : ArtifactKind) (bare : Bool)
  | mustExist (artifact : Artifact)
  | mustNotExist (artifact : Artifact)
  | mustMatch (artifact : Artifact) (contents : ByteArray)
  | mustNotMatch (artifact : Artifact) (contents : ByteArray)
  | relocate (source target : Path)

/-- What an operation replies when it succeeds. -/
inductive Reply where
  | invocation (i : Invocation)
  | path (p : Path)
  | fileName (name : String)
  | done

/-- What can happen to a scenario and its machine. -/
inductive Step where
  /-- A job of the scenario. -/
  | job (j : Job)
  /-- The choice of another variant. -/
  | configure (name : Option String)
  /-- A look at what was built. -/
  | inquire (q : Inquiry)
  /-- Whatever else changes the files, the current directory or the environment. -/
  | outside (files : FileTree) (directory : Place) (environment : Environment)

/-- The operation of a job. -/
def Job.perform (executor : Executor) : Job → ScenarioM Invocation
  | generate project arguments chdir => Scenario.runGenerator executor project arguments chdir
  | build request => Scenario.build executor request
  | verify request => Scenario.upToDate executor request
  | run name options => Scenario.run executor name options

/-- The operation of an inquiry. -/
def Inquiry.perform (s : Scenario) : Inquiry → Verify Reply
  | artifactPath artifact => return .path (s.artifactPath artifact)
  | fileName name kind bare => return .fileName (s.affixes.fileName name kind bare)
  | mustExist artifact => do
    s.mustExist artifact
    return .done
  | mustNotExist artifact => do
    s.mustNotExist artifact
    return .done
  | mustMatch artifact contents => do
    s.mustMatch artifact contents
    return .done
  | mustNotMatch artifact contents => do
    s.mustNotMatch artifact contents
    return .done
  | relocate source target => do
    s.relocate source target
    return .done

/-- A change from outside. -/
def Step.change (files : FileTree) (directory : Place) (environment : Environment) :
    Verify Reply := do
  let m ← getThe Machine
  set { m with files, directory, environment }
  return .done

/-- The operation of a step. -/
def Step.perform (executor : Executor) : Step → ScenarioM Reply
  | job j => do
    let i ← j.perform executor
    return .invocation i
  | configure name => do
    Scenario.setConfiguration name
    return .done
  | inquire q => do
    let s ← getThe Scenario
    Scenario.onMachine (q.perform s)
  | outside files directory environment =>
    Scenario.onMachine (Step.change files directory environment)

/-! ## 3. Steps without a command -/

theorem RunsNothing.assertNone (finding : Option AssertionFault) :
    RunsNothing (Scenario.assertNone finding) := by
  cases finding with
  | none => exact .pure _
  | some fault => exact .throw _

theorem RunsNothing.relocate (source target : Path) :
    RunsNothing (Staging.relocate source target) := by
  rw [Staging.relocate, List.forM_eq_forM]
  exact .bind (.forM .ensureDirectory _) fun _ => .changeFiles _ _

/-- No look at what was built hands over a command. -/
theorem Inquiry.runsNothing (s : Scenario) (q : Inquiry) : RunsNothing (q.perform s) := by
  cases q with
  | artifactPath artifact => exact .pure _
  | fileName name kind bare => exact .pure _
  | mustExist artifact => exact .bind (.bind .get fun _ => .assertNone _) fun _ => .pure _
  | mustNotExist artifact => exact .bind (.bind .get fun _ => .assertNone _) fun _ => .pure _
  | mustMatch artifact contents =>
    exact .bind (.bind (RunsNothing.readBytes _).verify fun _ => .assertNone _) fun _ => .pure _
  | mustNotMatch artifact contents =>
    exact .bind (.bind (RunsNothing.readBytes _).verify fun _ => .assertNone _) fun _ => .pure _
  | relocate source target => exact .bind (RunsNothing.relocate _ _).verify fun _ => .pure _

/-! ## 4. Jobs -/

namespace Job

/-- The program that a job hands over, if it has one. -/
def program? (s : Scenario) : Job → Option Path
  | generate _ _ _ => some s.generator
  | build _ | verify _ => s.backend.tool.path?
  | run name options => some (s.artifactPath { name, kind := .executable, chdir := options.chdir })

/-- The command of a build, or why there is none. -/
def buildCommand? (s : Scenario) (m : Machine) (request : BuildRequest) :
    Except VerifyError Command :=
  if s.backend = .gypd then .error (.unsupported .gypd "build")
  else
    match s.backend.tool.path? with
    | none => .error (.toolNotFound s.backend.format s.backend.toolName [])
    | some program => .ok (s.backend.buildCommand s.workspace m request program)

/-- The command that a job hands over, or why it hands over none. -/
def command? (s : Scenario) (m : Machine) : Job → Except VerifyError Command
  | generate project arguments chdir =>
    .ok (s.workspace.placed (s.generatorCommand project arguments) chdir)
  | build request => buildCommand? s m request
  | verify request => buildCommand? s m (s.backend.verificationRequest request)
  | run name options =>
    if s.backend = .gypd then .error (.unsupported .gypd "run_built_executable")
    else .ok (s.workspace.placed (s.backend.runCommand s.workspace name options) options.chdir)

/-- What a job concludes from the invocation of its command. -/
def conclude (s : Scenario) : Job → Invocation → Except VerifyError Invocation
  | generate _ _ _, i => i.ensureSuccess
  | build _, i | run _ _, i => .ok i
  | verify request, i => s.backend.conclude request.target i

/-- How a job ends, and in which situation. -/
inductive Ends (executor : Executor) (x : Situation) (j : Job) :
    Except VerifyError Invocation → Situation → Prop where
  /-- It has no command to hand over. -/
  | refused {e : VerifyError} (es : List Event)
    (command : j.command? x.scenario x.machine = .error e) :
    Ends executor x j (.error e) { x with machine := x.machine.logged es }
  /-- Its command leaves no output. -/
  | failed {c : Command} {failure : Failure} (es : List Event)
    (command : j.command? x.scenario x.machine = .ok c)
    (outcome : (executor (x.machine.logged es) c).outcome = .error failure) :
    Ends executor x j (.error (.other failure))
      { x with
        machine := (x.machine.logged es).answered c (executor (x.machine.logged es) c) }
  /-- Its command leaves an output, which is recorded. -/
  | recorded {c : Command} {o : Output} (es es' : List Event)
    (command : j.command? x.scenario x.machine = .ok c)
    (outcome : (executor (x.machine.logged es) c).outcome = .ok o) :
    Ends executor x j (j.conclude x.scenario (.ofOutput c o))
      { scenario := { x.scenario with last := some (.ofOutput c o) }
        machine :=
          ((x.machine.logged es).answered c (executor (x.machine.logged es) c)).logged es' }

end Job

namespace Situation

variable (x : Situation) {executor : Executor} {c : Command} {es : List Event}
  {v : Verify Invocation}

/-- An operation that hands over a command, records what comes back and goes on. -/
theorem perform_recorded (hv : x.machine.perform v = (x.machine.logged es).submit executor c)
    (k : Invocation → ScenarioM Invocation) :
    x.perform (do
      let i ← Scenario.onMachine v
      Scenario.record i
      k i) =
      let m := (x.machine.logged es).answered c (executor (x.machine.logged es) c)
      match (executor (x.machine.logged es) c).outcome with
      | .ok o => perform ⟨{ x.scenario with last := some (.ofOutput c o) }, m⟩ (k (.ofOutput c o))
      | .error failure => (.error (.other failure), { x with machine := m }) := by
  simp only [perform_bind, perform_onMachine, hv, Machine.submit, Answer.invocation]
  cases (executor (x.machine.logged es) c).outcome with
  | ok o => simp only [perform_record]
  | error failure => rfl

theorem perform_refused {e : VerifyError}
    (hv : x.machine.perform v = (.error e, x.machine.logged es))
    (k : Invocation → ScenarioM Invocation) :
    x.perform (do
      let i ← Scenario.onMachine v
      Scenario.record i
      k i) = (.error e, { x with machine := x.machine.logged es }) := by
  simp only [perform_bind, perform_onMachine, hv]

/-- What happens after the record is a conclusion and events in the log. -/
theorem ends_recorded {j : Job} {k : Invocation → ScenarioM Invocation}
    (hv : x.machine.perform v = (x.machine.logged es).submit executor c)
    (hc : j.command? x.scenario x.machine = .ok c)
    (hk : ∀ (i : Invocation) (y : Situation), ∃ es',
      y.perform (k i) = (j.conclude x.scenario i, { y with machine := y.machine.logged es' })) :
    let r := x.perform (do
      let i ← Scenario.onMachine v
      Scenario.record i
      k i)
    j.Ends executor x r.1 r.2 := by
  intro r
  have hr : r = _ := x.perform_recorded hv k
  cases ho : (executor (x.machine.logged es) c).outcome with
  | ok o =>
    simp only [ho] at hr
    obtain ⟨es', he⟩ := hk (.ofOutput c o) _
    rw [hr, he]
    exact .recorded es es' hc ho
  | error failure =>
    simp only [ho] at hr
    rw [hr]
    exact .failed es hc ho

theorem ends_build {j : Job} {request : BuildRequest} {k : Invocation → ScenarioM Invocation}
    (hc : j.command? x.scenario x.machine = Job.buildCommand? x.scenario x.machine request)
    (hk : x.scenario.backend ≠ .gypd → ∀ (i : Invocation) (y : Situation), ∃ es',
      y.perform (k i) = (j.conclude x.scenario i, { y with machine := y.machine.logged es' })) :
    let r := x.perform (do
      let i ← Scenario.onMachine
        (x.scenario.backend.build x.scenario.workspace executor request)
      Scenario.record i
      k i)
    j.Ends executor x r.1 r.2 := by
  intro r
  have hcommand := hc
  unfold Job.buildCommand? at hcommand
  by_cases hb : x.scenario.backend = .gypd
  · rw [if_pos hb] at hcommand
    have hv : x.machine.perform (x.scenario.backend.build x.scenario.workspace executor request) =
        (.error (.unsupported .gypd "build"), x.machine.logged []) := by
      rw [hb, Backend.perform_build_gypd, Machine.logged_nil]
    have hr : r = _ := x.perform_refused hv k
    rw [hr]
    exact .refused [] hcommand
  · rw [if_neg hb] at hcommand
    cases hp : x.scenario.backend.tool.path? with
    | none =>
      simp only [hp] at hcommand
      have hr : r = _ := x.perform_refused
        (x.scenario.backend.perform_build_of_no_tool _ executor x.machine hb hp request) k
      rw [hr]
      exact .refused _ hcommand
    | some program =>
      simp only [hp] at hcommand
      exact x.ends_recorded
        (x.scenario.backend.perform_build _ executor x.machine hp request) hcommand (hk hb)

/-- A verification checks what it has recorded. -/
theorem perform_upToDate (request : BuildRequest) :
    x.perform (Scenario.upToDate executor request) = x.perform (do
      let i ← Scenario.onMachine (x.scenario.backend.build x.scenario.workspace executor
        (x.scenario.backend.verificationRequest request))
      Scenario.record i
      Scenario.onMachine (x.scenario.backend.check request.target i)) := by
  simp only [Scenario.upToDate, Scenario.build, perform_bind, perform_getScenario,
    perform_onMachine]
  cases (x.machine.perform (x.scenario.backend.build x.scenario.workspace executor
    (x.scenario.backend.verificationRequest request))).1 with
  | ok i => rfl
  | error e => rfl

/-- **What a job does.**  It is refused; or it hands over one command, and what
comes back as an output is recorded, whatever is concluded from it. -/
theorem ends_job (executor : Executor) (j : Job) :
    let r := x.perform (j.perform executor)
    j.Ends executor x r.1 r.2 := by
  cases j with
  | generate project arguments chdir =>
    simp only [Job.perform, Scenario.runGenerator, perform_getScenario_bind]
    refine x.ends_recorded (Backend.perform_runIn x.scenario.workspace executor x.machine
      (x.scenario.generatorCommand project arguments) chdir) rfl fun i y => ⟨[], ?_⟩
    rw [perform_liftExcept, Machine.logged_nil]
    rfl
  | build request =>
    simp only [Job.perform, Scenario.build, perform_getScenario_bind]
    refine x.ends_build rfl fun _ i y => ⟨[], ?_⟩
    rw [perform_pure, Machine.logged_nil]
    rfl
  | verify request =>
    simp only [Job.perform, perform_upToDate]
    refine x.ends_build rfl fun hb i y => ?_
    obtain ⟨es, he⟩ := x.scenario.backend.perform_check y.machine hb request.target i
    exact ⟨es, by rw [perform_onMachine, he]; rfl⟩
  | run name options =>
    simp only [Job.perform, Scenario.run, perform_getScenario_bind]
    by_cases hb : x.scenario.backend = .gypd
    · have hv : x.machine.perform
          (x.scenario.backend.run x.scenario.workspace executor name options) =
          (.error (.unsupported .gypd "run_built_executable"), x.machine.logged []) := by
        rw [hb, Backend.perform_run_gypd, Machine.logged_nil]
      rw [x.perform_refused hv]
      exact .refused [] (if_pos hb)
    · refine x.ends_recorded
        (x.scenario.backend.perform_run _ executor x.machine hb name options) (if_neg hb)
        fun i y => ⟨[], ?_⟩
      rw [perform_pure, Machine.logged_nil]
      rfl

end Situation

end CrossBuild
