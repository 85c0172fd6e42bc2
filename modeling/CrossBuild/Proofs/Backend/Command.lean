import CrossBuild.Backend
import CrossBuild.Proofs.Machine.Perform

/-!
# The one command of an operation

A build and the run of a built program each hand exactly one command to the
executor, or fail before they do.  `Machine.submit` is that one step, and
the equations below say for every backend which command it is and what
stands in the log before it.

Whatever a verdict or a scenario does afterwards is a function of the
invocation, so later proofs start from these equations and open no backend
again.
-/
namespace CrossBuild

/-! ## 1. Handing over a command -/

/-- The invocation that an answer to a command amounts to. -/
def Answer.invocation (a : Answer) (c : Command) : Except VerifyError Invocation :=
  match a.outcome with
  | .ok output => .ok (.ofOutput c output)
  | .error failure => .error (.other failure)

/-- Hands one command to an executor. -/
def Machine.submit (m : Machine) (executor : Executor) (c : Command) :
    Except VerifyError Invocation × Machine :=
  ((executor m c).invocation c, m.answered c (executor m c))

namespace Machine

variable (m : Machine) (executor : Executor) (c : Command)

@[simp] theorem submit_history :
    (m.submit executor c).2.history = m.history ++ [⟨c, (executor m c).outcome⟩] := rfl

/-- The history tells which command was handed over. -/
theorem submit_inj {es es' : List Event} {c c' : Command}
    (h : (m.logged es).submit executor c = (m.logged es').submit executor c') : c = c' := by
  have hhistory := congrArg (fun x => x.2.history.map (·.command)) h
  simpa using hhistory

theorem perform_submit :
    m.perform (do
      let output ← (execute executor c).verify
      return Invocation.ofOutput c output) = m.submit executor c := by
  simp only [perform_bind, perform_verify, perform_execute, submit, Answer.invocation]
  cases (executor m c).outcome <;> rfl

end Machine

/-- A command as it is run in a workspace, or in a directory below it. -/
def Workspace.placed (w : Workspace) (c : Command) (chdir : Option Path) : Command :=
  { c with directory := some (w.runDirectory chdir) }

namespace Backend

variable (b : Backend) (w : Workspace) (executor : Executor) (m : Machine)

theorem perform_runIn (c : Command) (chdir : Option Path) :
    m.perform (runIn w executor c chdir) =
      (m.logged [.runningIn (w.runDirectory chdir) c.display]).submit executor
        (w.placed c chdir) := by
  rw [runIn, Machine.perform_bind, Machine.perform_log]
  exact (m.logged _).perform_submit executor (w.placed c chdir)

/-! ## 2. The command of a build -/

/-- Whether a build finds the makefile that it would use by default; only one
kind of build looks for it. -/
def findsMakefile (options : BuildOptions) : Bool :=
  match b with
  | make _ => m.pathExists (topMakefile w options)
  | _ => true

/-- The command of a build with a program. -/
def buildCommand (request : BuildRequest) (program : Path) : Command :=
  { program
    arguments := b.arguments w.configuration request (b.findsMakefile w m request.options)
    directory := some (w.runDirectory request.options.chdir) }

/-- What is logged when the makefile is missing. -/
def makefileEvents (options : BuildOptions) : List Event :=
  if b.findsMakefile w m options then [] else [.noMakefile (topMakefile w options)]

/-- What is logged before the command of a build. -/
def buildEvents (request : BuildRequest) (program : Path) : List Event :=
  b.makefileEvents w m request.options ++
    [.runningIn (w.runDirectory request.options.chdir)
      (b.buildCommand w m request program).display]

theorem perform_build_gypd (request : BuildRequest) :
    m.perform (gypd.build w executor request) = (.error (.unsupported .gypd "build"), m) := rfl

theorem requireTool_of_path {program : Path} (h : b.tool.path? = some program) :
    b.requireTool = .ok program := by
  simp only [requireTool, h]

theorem perform_drive {program : Path} (h : b.tool.path? = some program)
    (options : BuildOptions) (arguments : List String) :
    m.perform (b.drive w executor options arguments) =
      m.perform (runIn w executor { program, arguments } options.chdir) := by
  simp only [drive, Machine.perform_bind, Machine.perform_liftExcept, b.requireTool_of_path h]

/-- A build with a tool hands over exactly one command. -/
theorem perform_build {program : Path} (h : b.tool.path? = some program)
    (request : BuildRequest) :
    m.perform (b.build w executor request) =
      (m.logged (b.buildEvents w m request program)).submit executor
        (b.buildCommand w m request program) := by
  cases b with
  | gypd => simp [tool, ToolResolution.path?] at h
  | make t =>
    simp only [build, Machine.perform_bind, Machine.perform_get]
    cases hm : m.pathExists (topMakefile w request.options) with
    | true =>
      rw [Bool.not_true, if_neg Bool.false_ne_true, perform_drive _ _ _ _ h, perform_runIn]
      simp only [buildEvents, makefileEvents, buildCommand, findsMakefile, hm]
      rfl
    | false =>
      rw [Bool.not_false, if_pos rfl, Machine.perform_bind, Machine.perform_log]
      simp only [perform_drive _ _ _ _ h, perform_runIn, Machine.logged_logged, buildEvents,
        makefileEvents, buildCommand, findsMakefile, hm]
      rfl
  | msvs t g =>
    simp only [build, perform_drive _ _ _ _ h, perform_runIn]
    rfl
  | scons t =>
    simp only [build, perform_drive _ _ _ _ h, perform_runIn]
    rfl
  | xcode t =>
    simp only [build, perform_drive _ _ _ _ h, perform_runIn]
    rfl

/-- A build without a tool fails before it hands over anything. -/
theorem perform_build_of_no_tool (hb : b ≠ gypd) (h : b.tool.path? = none)
    (request : BuildRequest) :
    m.perform (b.build w executor request) =
      (.error (.toolNotFound b.format b.toolName []),
        m.logged (b.makefileEvents w m request.options)) := by
  have hd : ∀ (m : Machine) (arguments : List String),
      m.perform (b.drive w executor request.options arguments) =
        (.error (.toolNotFound b.format b.toolName []), m) := by
    intro m arguments
    simp only [drive, requireTool, h, Machine.perform_bind, Machine.perform_liftExcept]
  cases b with
  | gypd => exact absurd rfl hb
  | make t =>
    simp only [build, Machine.perform_bind, Machine.perform_get]
    cases hm : m.pathExists (topMakefile w request.options) with
    | true =>
      rw [Bool.not_true, if_neg Bool.false_ne_true, hd]
      simp only [makefileEvents, findsMakefile, hm, if_true, Machine.logged_nil]
    | false =>
      rw [Bool.not_false, if_pos rfl, Machine.perform_bind, Machine.perform_log]
      simp only [hd, makefileEvents, findsMakefile, hm]
      rfl
  | msvs t g => simp only [build, hd, makefileEvents, findsMakefile, if_true, Machine.logged_nil]
  | scons t => simp only [build, hd, makefileEvents, findsMakefile, if_true, Machine.logged_nil]
  | xcode t => simp only [build, hd, makefileEvents, findsMakefile, if_true, Machine.logged_nil]

/-! ## 3. The command of a built program -/

/-- What is logged before the command of a built program. -/
def runEvents (name : String) (options : RunOptions) : List Event :=
  ((b.librarySearch? w.configuration).toList.map fun search =>
    .librarySearch search.name search.value) ++
    [.runningIn (w.runDirectory options.chdir) (b.runCommand w name options).display]

theorem perform_run_gypd (name : String) (options : RunOptions) :
    m.perform (gypd.run w executor name options) =
      (.error (.unsupported .gypd "run_built_executable"), m) := rfl

/-- The run of a built program hands over exactly one command. -/
theorem perform_run (hb : b ≠ gypd) (name : String) (options : RunOptions) :
    m.perform (b.run w executor name options) =
      (m.logged (b.runEvents w name options)).submit executor
        (w.placed (b.runCommand w name options) options.chdir) := by
  rw [run, if_neg hb, List.forM_eq_forM, Machine.perform_bind, Machine.perform_forM_log]
  simp only [perform_runIn, Machine.logged_logged]
  rfl

end Backend

end CrossBuild
