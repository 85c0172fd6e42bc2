import CrossBuild.CommandLine.Run
import CrossBuild.CommandLine.Usage
import CrossBuild.Files.Seed
import CrossBuild.Programs

/-!
# The program

The outer layer: it takes what a command line may look at from the system
into a machine, runs the command line on that machine, and prints what came
of it.  Tools are run by `CrossBuild.Programs`, so they have to be scripts.
-/
namespace CrossBuild.Main

/-- The variables of the environment that a command line or a tool may look at. -/
def variableNames : List String :=
  ["DYLD_LIBRARY_PATH", "GYP_MSVS_VERSION", "HOME", "LD_LIBRARY_PATH", "PATH", "TESTGYP_FORMAT",
   "TESTGYP_GYP", "XDG_CONFIG_HOME"]

/-- The names under which build tools are looked up. -/
def toolNames : List String :=
  ["make", "scons", "scons.py", "xcodebuild", "devenv.com"]

/-- The places of a program that a command line asks to run, for any build tool. -/
def builtPrograms (directory : Path) (task : RunTask) : List Path :=
  let workspace : Workspace :=
    { workdir := directory, configuration := .ofName? task.configuration }
  let backends : List Backend :=
    [.make .notFound, .msvs .notFound .legacy, .scons .notFound, .xcode .notFound]
  backends.map fun b => (b.runCommand workspace task.name task.options).program

/-- The programs that a command line may run. -/
def programsOf (m : Machine) (directory : Path) (c : CommandLine) : List Path :=
  let searched := Text.splitOn ':' ((m.environment.get? "PATH").getD "")
  let tools := searched.flatMap fun d => toolNames.map fun name => (Path.mk d).join ⟨name⟩
  match c.task with
  | .run task => tools ++ builtPrograms directory task
  | _ => tools

/-- The other files that a command line may look at. -/
def filesOf (m : Machine) (directory : Path) (c : CommandLine) : List Path :=
  let settings := [Settings.globalPath m, Settings.projectPath directory]
  match c.task with
  | .build task | .upToDate task =>
    let workspace : Workspace := { workdir := directory }
    settings ++ [(workspace.runDirectory task.request.options.chdir).join ⟨"Makefile"⟩]
  | _ => settings

/-- Adds a file to a machine, if the system has it. -/
def load (executable : Bool) (m : Machine) (path : Path) : IO Machine := do
  try
    let data ← IO.FS.readBinFile path.text
    return m.after ((Seed.file path data executable).plant ⟨"/"⟩)
  catch _ => return m

/-- The environment of the system. -/
def loadEnvironment : IO Environment :=
  variableNames.foldlM
    (fun env name => do return (← IO.getEnv name).elim env (env.set name))
    []

/-- The machine that a command line runs on. -/
def loadMachine (environment : Environment) (c : CommandLine) : IO Machine := do
  let directory : Path := ⟨(← IO.getEnv "PWD").getD "/"⟩
  let m := Machine.bare.after (ensureDirectory directory)
  let m := { m with
    environment
    directory := (m.files.resolve [] directory).toOption.getD [] }
  let m ← (filesOf m directory c).foldlM (load false) m
  (programsOf m directory c).foldlM (load true) m

/-- Prints both texts of a program. -/
def print (stdout stderr : String) : IO Unit := do
  (← IO.getStdout).putStr stdout
  (← IO.getStderr).putStr stderr

/-- Runs a command line and gives its exit status. -/
def run (arguments : List String) : IO UInt32 := do
  let environment ← loadEnvironment
  match CommandLine.parse environment arguments with
  | .error e =>
    let (stdout, stderr) := e.ending
    print stdout stderr
    return e.exitStatus.toUInt32
  | .ok c =>
    let m ← loadMachine environment c
    let color ← (← IO.getStderr).isTty
    let (ending, _) := (c.run Programs.executor color).run m
    print ending.stdout ending.stderr
    return (ending.exit % 256).toNat.toUInt32

end CrossBuild.Main

/-- The program. -/
def main (arguments : List String) : IO UInt32 :=
  CrossBuild.Main.run arguments
