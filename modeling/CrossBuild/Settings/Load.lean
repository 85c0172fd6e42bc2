import CrossBuild.Machine
import CrossBuild.Settings.Read

/-!
# Layers of settings

Settings come from a global file, from a file of the project and from the
environment, the later ones winning.  A fault in the global file is only
warned of; a fault in the project's file is an error.
-/
namespace CrossBuild.Settings

/-! ## 1. One file -/

/-- The settings of a file, or the failure to read them. -/
def load (m : Machine) (path : Path) : Except Failure Settings :=
  match m.readText path with
  | .error e => .error (.readConfig path e)
  | .ok text =>
    match ofText text with
    | .ok s => .ok s
    | .error fault => .error (.parseConfig path (fault.report text))

/-- The settings of a file, or the error that its fault is. -/
def loadChecked (m : Machine) (path : Path) : Except VerifyError Settings :=
  match m.readText path with
  | .error e => .error (.io e)
  | .ok text =>
    match ofText text with
    | .ok s => .ok s
    | .error fault => .error (.config path fault.fault)

/-- The settings of a file that may be absent or faulty; a fault is logged. -/
def loadOrDefault (path : Path) : MachineM Settings := do
  let m ← get
  if m.pathExists path then
    match load m path with
    | .ok s => return s
    | .error failure =>
      log (.configIgnored path failure.full)
      return {}
  else return {}

/-! ## 2. The layers -/

/-- The name of the file, in the directories of both layers. -/
def fileName : Path := ⟨"config.toml"⟩

/-- The directory of a user who has no `HOME`. -/
def accountHome : String := "/root"

/-- The file of the global layer.  The configuration directory is the one that
the environment names by an absolute path, or `.config` in the user's. -/
def globalPath (m : Machine) : Path :=
  let named := (m.environment.get? "XDG_CONFIG_HOME").filter fun text => (Path.mk text).isAbsolute
  let home : Path := ⟨(m.environment.nonempty? "HOME").getD accountHome⟩
  let directory := (named.map Path.mk).getD (home.join ⟨".config"⟩)
  (directory.join ⟨"gyptest"⟩).join fileName

/-- The file of a project's layer. -/
def projectPath (project : Path) : Path :=
  (project.join ⟨".gyptest"⟩).join fileName

/-- The settings of the project's file over other ones. -/
def loadOver (base : Settings) (project : Path) : Verify Settings := do
  let m ← getThe Machine
  if m.pathExists project then return base.merge (← loadChecked m project)
  else return base

/-- The settings of the two files. -/
def loadLayers (global : Option Path) (project : Path) : Verify Settings := do
  let lower ← match global with
    | some path => (loadOrDefault path : MachineM Settings)
    | none => pure {}
  loadOver (({} : Settings).merge lower) project

/-- The name of the variable for the format. -/
def formatVariable : String := "TESTGYP_FORMAT"

/-- The name of the variable for the generator. -/
def generatorVariable : String := "TESTGYP_GYP"

/-- The name of the variable for the release of Visual Studio. -/
def releaseVariable : String := "GYP_MSVS_VERSION"

/-- The settings of the environment. -/
def ofEnvironment (env : Environment) : Settings where
  format := env.nonempty? formatVariable
  generator := (env.nonempty? generatorVariable).map Path.mk
  msvs := { version := env.nonempty? releaseVariable }

/-- The settings that hold in a project, given where the global layer is; for some
users it is nowhere. -/
def discoverWith (global : Option Path) (project : Path) : Verify Settings := do
  let m ← getThe Machine
  let files ← loadLayers global (projectPath project)
  return files.merge (ofEnvironment m.environment)

/-- The settings that hold in a project. -/
def discover (project : Path) : Verify Settings := do
  let m ← getThe Machine
  discoverWith (some (globalPath m)) project

end CrossBuild.Settings
