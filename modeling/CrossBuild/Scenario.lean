import CrossBuild.Backend
import CrossBuild.Format.Filter
import CrossBuild.Settings.Load
import CrossBuild.Staging

/-!
# Scenarios

A scenario is one verification of one format: it has a backend, a variant to
build, and a working directory with a staged copy of a fixture.  It is set
up from a plan, goes through its operations, and is closed in the end.

Every operation that runs a command records the invocation, whatever becomes
of it afterwards, so that the last output can be shown.
-/
namespace CrossBuild

/-- Where a scenario works. -/
inductive Workdir where
  /-- A directory of its own, removed in the end. -/
  | temporary (path : Path)
  /-- A directory of the caller's. -/
  | fixed (path : Path)
  deriving DecidableEq, Repr

/-- The path of a working directory. -/
def Workdir.path : Workdir → Path
  | temporary path | fixed path => path

/-- What a scenario is set up from.  Whatever is left open is taken from the
environment and from files. -/
structure ScenarioPlan where
  /-- The format. -/
  format : Option Format := none
  /-- The entries of the filter of formats. -/
  formats : List String := []
  /-- The generator. -/
  generator : Option Path := none
  /-- The directory to work in. -/
  workdir : Option Path := none
  /-- The fixture to stage. -/
  fixture : Option Path := none
  /-- The directory that a relative generator starts from. -/
  directory : Option Path := none
  /-- The settings. -/
  settings : Option Settings := none
  /-- Where tools are looked up. -/
  locator : Option Locator := none
  /-- The names of artifacts. -/
  affixes : Affixes := .host

/-- One verification of one format. -/
structure Scenario where
  /-- The format. -/
  format : Format
  /-- The generator. -/
  generator : Path
  /-- What builds. -/
  backend : Backend
  /-- The variant to build. -/
  configuration : Configuration
  /-- Where it works. -/
  workdir : Workdir
  /-- The names of artifacts. -/
  affixes : Affixes
  /-- The last command that ran. -/
  last : Option Invocation := none

namespace ScenarioPlan

/-! ## 1. Setting up -/

/-- The format: the planned one, else that of the environment, else that of the
settings. -/
def chooseFormat (planned : Option Format) (env : Environment) (settings : Settings) :
    Except VerifyError Format :=
  match planned with
  | some format => .ok format
  | none =>
    match env.nonempty? Settings.formatVariable <|> settings.format with
    | none => .error .noFormat
    | some name =>
      match Format.parse? name with
      | some format => .ok format
      | none => .error (.unknownFormat name)

/-- The generator's name when none is given. -/
def defaultGenerator : Path := ⟨"gyp"⟩

/-- The generator as it is named: by the plan, else by the environment, else by
the settings. -/
def namedGenerator (planned : Option Path) (env : Environment) (settings : Settings) : Path :=
  (planned <|> (env.nonempty? Settings.generatorVariable).map Path.mk <|>
    settings.generator).getD defaultGenerator

/-- The generator as it is run.  A name of one part is looked up first; what is
not found is taken from the given directory. -/
def chooseGenerator (m : Machine) (named : Path) (locator : Locator) (directory : Path) : Path :=
  if named.isAbsolute then named
  else
    let found := if named.components.length = 1 then locator.find? m named.text else none
    found.getD (directory.join named)

/-- The directory for directories that nobody asked for by name, as an absolute path. -/
def temporaryRoot (m : Machine) : Except FileError Path :=
  let root : Path := ⟨(m.environment.get? "TMPDIR").getD "/tmp"⟩
  if root.isAbsolute then .ok root
  else m.currentDirectory.map fun directory => directory.join root

/-- The name of the first directory that does not exist yet. -/
def freshName (m : Machine) (root : Path) : Path :=
  let name (n : Nat) : Path := root.join ⟨"gyptest" ++ toString n⟩
  let taken (n : Nat) : Bool := m.pathExists (name n)
  name (((List.range (m.files.entries.length + 1)).find? fun n => !taken n).getD 0)

/-- Makes the directory to work in, or a fresh one. -/
def makeWorkdir (planned : Option Path) : Verify Workdir := do
  match planned with
  | some path =>
    (ensureDirectory path).verify
    return .fixed path
  | none =>
    let m ← getThe Machine
    match temporaryRoot m with
    | .error e => throw (.io e)
    | .ok root =>
      let path := freshName m root
      match m.files.makeDirectory m.directory path with
      | .ok files =>
        set { m with files := files }
        return .temporary path
      | .error e => throw (.io e)

/-- Removes a directory of the scenario's own. -/
def removeWorkdir (w : Workdir) : MachineM Unit :=
  match w with
  | .fixed _ => pure ()
  | .temporary path => modify fun m =>
    match m.files.resolve m.directory path with
    | .ok place => { m with files := m.files.removeBelow place }
    | .error _ => m

/-- Stages the fixture.  When that fails, a directory of the scenario's own goes. -/
def stageFixture (fixture : Option Path) (w : Workdir) : Verify Unit := do
  match fixture with
  | none => return
  | some source =>
    tryCatch (discard (Staging.stage source w.path).verify) fun e => do
      (removeWorkdir w : MachineM Unit)
      throw e

/-- The directory that relative paths of a plan start from. -/
def startDirectory (plan : ScenarioPlan) : Verify Path := do
  match plan.directory, (← getThe Machine).currentDirectory with
  | some directory, _ => return directory
  | none, .ok directory => return directory
  | none, .error e => throw (.io e)

/-- The settings of a plan. -/
def chooseSettings (plan : ScenarioPlan) (directory : Path) : Verify Settings :=
  match plan.settings with
  | some settings => return settings
  | none => Settings.discover directory

/-- Logs that the scenario does not apply to its format, unless it does. -/
def requireAdmitted (formats : List String) (format : Format) : Verify Unit := do
  if (FormatFilter.ofEntries formats).admits format then return
  else
    log (.skipping format)
    throw (.skipped format)

/-- Sets up a scenario. -/
def start (plan : ScenarioPlan) : Verify Scenario := do
  let directory ← plan.startDirectory
  let settings ← plan.chooseSettings directory
  let env := (← getThe Machine).environment
  let format ← chooseFormat plan.format env settings
  requireAdmitted plan.formats format
  let m ← getThe Machine
  let locator := plan.locator.getD (.ofEnvironment m)
  let generator := chooseGenerator m (namedGenerator plan.generator env settings) locator directory
  let backend ← Backend.select format locator settings
  let workdir ← makeWorkdir plan.workdir
  log (.workingIn workdir.path)
  stageFixture plan.fixture workdir
  return { format, generator, backend, workdir
           configuration := .ofName? settings.configuration
           affixes := plan.affixes }

end ScenarioPlan

/-- An operation of a scenario, which may end with an error. -/
abbrev ScenarioM := ExceptT VerifyError (StateT Scenario MachineM)

namespace Scenario

/-! ## 2. What a scenario knows -/

/-- Where builds happen. -/
def workspace (s : Scenario) : Workspace :=
  { workdir := s.workdir.path, configuration := s.configuration, affixes := s.affixes }

/-- A path below the working directory. -/
def pathBelow (s : Scenario) (relative : Path) : Path :=
  s.workdir.path.join relative

/-- The standard output of the last command. -/
def stdout (s : Scenario) : String :=
  (s.last.map (·.output.stdout)).getD ""

/-- The standard error of the last command. -/
def stderr (s : Scenario) : String :=
  (s.last.map (·.output.stderr)).getD ""

/-- The dump of the last command's output. -/
def report (s : Scenario) : String :=
  Report.notUpToDate s.stdout s.stderr

/-- Where an artifact is. -/
def artifactPath (s : Scenario) (artifact : Artifact) : Path :=
  s.backend.artifactPath s.workspace artifact

/-! ## 3. Commands -/

/-- An operation on the machine as one of a scenario. -/
def onMachine {α : Type} (v : Verify α) : ScenarioM α :=
  ExceptT.mk (StateT.lift v.run)

/-- Records an invocation as the last one. -/
def record (i : Invocation) : ScenarioM Unit :=
  modifyThe Scenario fun s => { s with last := some i }

/-- The command that runs the generator on a project. -/
def generatorCommand (s : Scenario) (project : Path) (arguments : List String) : Command :=
  { program := s.generator
    arguments := ["--depth=.", "--format=" ++ s.format.name, project.text] ++ arguments }

/-- Runs the generator on a project. -/
def runGenerator (executor : Executor) (project : Path) (arguments : List String)
    (chdir : Option Path) : ScenarioM Invocation := do
  let s ← getThe Scenario
  let i ← onMachine
    (Backend.runIn s.workspace executor (s.generatorCommand project arguments) chdir)
  record i
  liftM i.ensureSuccess

/-- Sets the variant to build; none is the tool's own choice. -/
def setConfiguration (name : Option String) : ScenarioM Unit :=
  modifyThe Scenario fun s => { s with configuration := .ofName? name }

/-- Builds.  A build that fails is a result, not an error. -/
def build (executor : Executor) (request : BuildRequest) : ScenarioM Invocation := do
  let s ← getThe Scenario
  let i ← onMachine (s.backend.build s.workspace executor request)
  record i
  return i

/-- Builds again and requires that nothing was done. -/
def upToDate (executor : Executor) (request : BuildRequest) : ScenarioM Invocation := do
  let s ← getThe Scenario
  let i ← build executor (s.backend.verificationRequest request)
  onMachine do
    let i ← i.ensureSuccess
    s.backend.checkUpToDate request.target i

/-- Runs a built program. -/
def run (executor : Executor) (name : String) (options : RunOptions) : ScenarioM Invocation := do
  let s ← getThe Scenario
  let i ← onMachine (s.backend.run s.workspace executor name options)
  record i
  return i

/-! ## 4. Assertions -/

/-- Fails with a finding, if there is one. -/
def assertNone (finding : Option AssertionFault) : Verify Unit :=
  match finding with
  | none => return
  | some fault => throw (.assertionFailed fault)

/-- Fails unless an artifact exists. -/
def mustExist (s : Scenario) (artifact : Artifact) : Verify Unit := do
  let path := s.artifactPath artifact
  assertNone (if (← getThe Machine).pathExists path then none else some (.missing path))

/-- Fails if an artifact exists. -/
def mustNotExist (s : Scenario) (artifact : Artifact) : Verify Unit := do
  let path := s.artifactPath artifact
  assertNone (if (← getThe Machine).pathExists path then some (.unexpected path) else none)

/-- Fails unless an artifact has the given contents. -/
def mustMatch (s : Scenario) (artifact : Artifact) (contents : ByteArray) : Verify Unit := do
  let path := s.artifactPath artifact
  let data ← (readBytes path).verify
  assertNone (if data = contents then none else some (.differs path))

/-- Fails if an artifact has the given contents. -/
def mustNotMatch (s : Scenario) (artifact : Artifact) (contents : ByteArray) : Verify Unit := do
  let path := s.artifactPath artifact
  let data ← (readBytes path).verify
  assertNone (if data = contents then some (.agrees path) else none)

/-- Moves an entry below the working directory. -/
def relocate (s : Scenario) (source target : Path) : Verify Unit :=
  (Staging.relocate (s.pathBelow source) (s.pathBelow target)).verify

/-! ## 5. The end -/

/-- Closes the scenario: a directory of its own is removed. -/
def close (s : Scenario) : MachineM Unit :=
  ScenarioPlan.removeWorkdir s.workdir

end Scenario

end CrossBuild
