import CrossBuild.CommandLine.Completion
import CrossBuild.CommandLine.Listing
import CrossBuild.CommandLine.Terminal
import CrossBuild.Scenario

/-!
# Running a command line

What each task does on a machine, what it prints, and the exit status it
ends with.  Tasks that build work on the files of the current directory:
nothing is staged, and no directory is made.
-/
namespace CrossBuild

/-- What a program that fails ends in. -/
inductive ProgramError where
  /-- The error of a verification. -/
  | verification (e : VerifyError)
  /-- A cause that the program has met itself, outside any verification. -/
  | system (cause : FileError)
  deriving DecidableEq, Repr

namespace ProgramError

/-- The exit status of a program that ends in this error. -/
def exitStatus : ProgramError → Int
  | verification e => e.exitStatus
  | system _ => 1

/-- What the user is told.  Only the error of a verification has a diagnostic, and so colours;
any other one is a line. -/
def text (color : Bool) : ProgramError → String
  | verification e => e.diagnostic.format color
  | system cause => "error: " ++ cause.message ++ "\n"

end ProgramError

/-- A program: it prints, and ends with an exit status or with an error. -/
abbrev Program := ExceptT ProgramError TerminalM

namespace CommandLine

/-! ## 1. Scenarios in the current directory -/

/-- The current directory. -/
def currentDirectory : Verify Path := do
  match (← getThe Machine).currentDirectory with
  | .ok directory => return directory
  | .error e => throw (.io e)

/-- The format of a text that is given. -/
def readFormat (text : String) : Except VerifyError Format :=
  match Format.parse? text with
  | some format => .ok format
  | none => .error (.unknownFormat text)

/-- The format that the command line or the environment asks for. -/
def plannedFormat (c : CommandLine) : Except VerifyError (Option Format) :=
  match c.format with
  | none => .ok none
  | some text => some <$> readFormat text

/-- Opens a scenario in the current directory, for a variant if one is given. -/
def openScenario (c : CommandLine) (configuration : Option String) : Verify Scenario := do
  let directory ← currentDirectory
  let format ← c.plannedFormat
  let scenario ← ScenarioPlan.start
    { format
      formats := c.validFormats
      directory := some directory
      workdir := some directory }
  match configuration with
  | none => return scenario
  | some _ => return { scenario with configuration := .ofName? configuration }

/-- Runs an operation of a scenario. -/
def onScenario {α : Type} (s : Scenario) (operation : ScenarioM α) : Verify α :=
  ExceptT.mk (Prod.fst <$> operation.run s)

/-! ## 2. The tasks -/

/-- Runs an operation of the machine. -/
def onMachine {α : Type} (operation : Verify α) : Program α :=
  ExceptT.mk (StateT.lift (operation.adapt ProgramError.verification).run)

/-- The current directory, for a task that opens no scenario: here a failure is the program's
own. -/
def processDirectory : Program Path := do
  match (← getThe Machine).currentDirectory with
  | .ok directory => return directory
  | .error e => throw (.system e)

/-- Prints what a command printed. -/
def echo (i : Invocation) : TerminalM Unit := do
  Terminal.write i.output.stdout
  Terminal.writeError i.output.stderr

/-- The exit status that passes on a command's; one that a signal ended counts as 1. -/
def statusOf (i : Invocation) : Int :=
  i.output.status.getD 1

/-- The backend summary of every format, with the settings of a directory. -/
def summaries (directory : Path) : Verify (List Summary) := do
  let settings ← Settings.discover directory
  Summary.all (.ofEnvironment (← getThe Machine)) settings

/-- The backend summary of one format, with the settings of a directory. -/
def summaryOf (directory : Path) (format : Format) : Verify Summary := do
  let settings ← Settings.discover directory
  return .ofBackend (← Backend.select format (.ofEnvironment (← getThe Machine)) settings)

/-- Lists the formats. -/
def listFormats (json : Bool) : Program Int := do
  let directory ← processDirectory
  let summaries ← onMachine (summaries directory)
  Terminal.write (if json then Listing.json summaries else Listing.table summaries)
  return 0

/-- Checks that the build tool of a format is there. -/
def checkFormat (text : String) : Program Int := do
  let format ← onMachine (readFormat text)
  let directory ← processDirectory
  let summary ← onMachine (summaryOf directory format)
  if summary.isAvailable then
    Terminal.write (summary.confirmation ++ "\n")
    return 0
  else throw (.verification summary.missingTool)

/-- Builds, and ends with the status of the build tool. -/
def build (executor : Executor) (c : CommandLine) (task : BuildTask) : Program Int := do
  let i ← onMachine do
    let s ← c.openScenario task.configuration
    onScenario s (Scenario.build executor task.request)
  echo i
  if i.success then return 0
  else
    (log (.exited i.command i.output.status) : MachineM Unit)
    return statusOf i

/-- Builds again, and fails if anything was done. -/
def verifyUpToDate (executor : Executor) (c : CommandLine) (task : BuildTask) : Program Int :=
  onMachine do
    let s ← c.openScenario task.configuration
    let i ← onScenario s (Scenario.upToDate executor task.request)
    log (.upToDate i.command)
    return 0

/-- Prints where an artifact is. -/
def locate (c : CommandLine) (task : LocateTask) : Program Int := do
  let s ← onMachine (c.openScenario task.configuration)
  Terminal.write ((s.artifactPath task.artifact).text ++ "\n")
  return 0

/-- Runs a built program, and ends with its status. -/
def runBuilt (executor : Executor) (c : CommandLine) (task : RunTask) : Program Int := do
  let i ← onMachine do
    let s ← c.openScenario task.configuration
    onScenario s (Scenario.run executor task.name task.options)
  echo i
  return statusOf i

/-- Does what a command line asks for. -/
def perform (executor : Executor) (c : CommandLine) : Program Int :=
  match c.task with
  | .formats json => listFormats json
  | .check format => checkFormat format
  | .build task => c.build executor task
  | .upToDate task => c.verifyUpToDate executor task
  | .path task => c.locate task
  | .run task => c.runBuilt executor task
  | .completions shell => do
    Terminal.write shell.script
    return 0

/-! ## 3. The end -/

/-- How a program ended. -/
structure Ending where
  /-- The exit status. -/
  exit : Int
  /-- What was written to the standard output. -/
  stdout : String
  /-- What was written to the standard error. -/
  stderr : String
  deriving DecidableEq, Repr

/-- Prints what there is to tell of an error, and gives the status that it ends with. -/
def conclude (color : Bool) (result : Except ProgramError Int) : TerminalM Int := do
  match result with
  | .ok status =>
    Terminal.showEvents
    return status
  | .error e =>
    Terminal.writeError (e.text color)
    return e.exitStatus

/-- Runs a command line.  Diagnostics are coloured if the terminal has colours and the
user does not mind them. -/
def run (executor : Executor) (color : Bool) (c : CommandLine) : MachineM Ending := do
  let shown := (← get).events.length
  let program : TerminalM Int := do
    conclude (color && !c.noColor) (← (c.perform executor).run)
  let (exit, terminal) ← program.run { verbose := c.verbose, shown }
  return { exit, stdout := terminal.stdout, stderr := terminal.stderr }

end CommandLine

end CrossBuild
