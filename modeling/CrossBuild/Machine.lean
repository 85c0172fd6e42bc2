import CrossBuild.Command
import CrossBuild.Error
import CrossBuild.Event
import CrossBuild.Files.Changes

/-!
# The machine that a verification runs on

Everything outside that a verification can see or change: the files, the
current directory, the environment, the log and the commands run so far.
An operation is a function on machines that may fail; a failure keeps the
changes made before it.
-/
namespace CrossBuild

/-- A command that was handed to an executor, and what became of it. -/
structure Execution where
  /-- The command. -/
  command : Command
  /-- What it left, or why it could not be run. -/
  outcome : Except Failure Output

/-- What a search for programs takes a directory of the search path for: by the user's directory
and the directory that the search starts from, the directory that is looked in. -/
abbrev SearchReading := (home : Option Path) → (base directory : Path) → Path

namespace SearchReading

/-- A directory of the search path, with `~` in first position replaced by the
user's directory. -/
def expandHome (home : Option Path) (directory : Path) : Path :=
  match home, directory.components with
  | some home, .name "~" :: rest => rest.foldl Path.joinComponent home
  | _, _ => directory

/-- A directory is looked in as it is listed, wherever the search starts. -/
def asListed : SearchReading := fun _ _ directory => directory

/-- A directory is looked in as it is seen from where the search starts, and `~` stands for the
user's directory. -/
def fromBase : SearchReading := fun home base directory =>
  (expandHome home directory).absoluteFrom base

end SearchReading

/-- A machine. -/
structure Machine where
  /-- The files. -/
  files : FileTree
  /-- The current directory; it may have been removed. -/
  directory : Place := []
  /-- The environment variables. -/
  environment : Environment := []
  /-- How programs are searched for.  The search is not part of this library, and nothing is
  assumed of it here. -/
  reading : SearchReading := .fromBase
  /-- The events logged, the oldest first. -/
  events : List Event := []
  /-- The commands handed to an executor, the oldest first. -/
  history : List Execution := []

instance : Inhabited Machine := ⟨{ files := default }⟩

/-- An operation on a machine that ends with a value. -/
abbrev MachineM := StateM Machine

/-- An operation on a machine that may end with a failure. -/
abbrev Operation := ExceptT Failure MachineM

/-- An operation on a machine that may end with a verification's error. -/
abbrev Verify := ExceptT VerifyError MachineM

/-- What an executor makes of a command. -/
structure Answer where
  /-- The files afterwards. -/
  files : FileTree
  /-- The events logged meanwhile, the oldest first. -/
  events : List Event := []
  /-- What the command left, or why it could not be run. -/
  outcome : Except Failure Output

/-- Whatever runs commands: the machine's own programs, or prepared answers.  It
sees the whole machine and may change the files. -/
abbrev Executor := Machine → Command → Answer

/-- A place as an absolute path. -/
def Place.path (p : Place) : Path :=
  ⟨"/" ++ "/".intercalate p⟩

namespace Machine

/-- Whether a path denotes anything. -/
def pathExists (m : Machine) (p : Path) : Bool :=
  m.files.pathExists m.directory p

/-- Whether a path denotes a directory. -/
def isDirectory (m : Machine) (p : Path) : Bool :=
  m.files.isDirectory m.directory p

/-- Whether a path denotes a file that may be run. -/
def isProgram (m : Machine) (p : Path) : Bool :=
  m.files.isProgram m.directory p

/-- The bytes of a file. -/
def read (m : Machine) (p : Path) : Except FileError ByteArray :=
  m.files.read m.directory p

/-- The text of a file. -/
def readText (m : Machine) (p : Path) : Except FileError String :=
  match m.read p with
  | .error e => .error e
  | .ok data =>
    match String.fromUTF8? data with
    | some text => .ok text
    | none => .error .notText

/-- The current directory as an absolute path, if it still exists. -/
def currentDirectory (m : Machine) : Except FileError Path :=
  if m.files.lookup? m.directory = some .directory then .ok m.directory.path
  else .error .notFound

/-- The commands handed to an executor, the oldest first. -/
def commands (m : Machine) : List Command :=
  m.history.map (·.command)

/-- The user's directory, by the environment. -/
def home? (m : Machine) : Option Path :=
  (m.environment.get? "HOME").map Path.mk

end Machine

/-- Adds an event to the log. -/
def log (e : Event) : MachineM Unit :=
  modify fun m => { m with events := m.events ++ [e] }

/-- Changes the files, or fails and leaves them. -/
def changeFiles (failure : FileError → Failure)
    (change : FileTree → Place → Except FileError FileTree) : Operation Unit := do
  let m ← getThe Machine
  match change m.files m.directory with
  | .ok files => set { m with files := files }
  | .error e => throw (failure e)

/-- Makes a directory with its missing parents, unless something is there already. -/
def ensureDirectory (p : Path) : Operation Unit := do
  let m ← getThe Machine
  if m.pathExists p then pure ()
  else
    match m.files.makeDirectories m.directory p with
    | (.ok _, files) => set { m with files := files }
    | (.error e, files) =>
      set { m with files := files }
      throw (.makeDirectory p e)

/-- The bytes of a file, or the failure to read it. -/
def readBytes (p : Path) : Operation ByteArray := do
  let m ← getThe Machine
  match m.read p with
  | .ok data => pure data
  | .error e => throw (.readFile p e)

/-- An operation's failure as a verification's error. -/
def Operation.verify {α : Type} (t : Operation α) : Verify α :=
  t.adapt VerifyError.other

/-- The machine after an answer to a command. -/
def Machine.answered (m : Machine) (c : Command) (a : Answer) : Machine :=
  { m with
    files := a.files
    events := m.events ++ a.events
    history := m.history ++ [⟨c, a.outcome⟩] }

/-- Hands a command to an executor, on record. -/
def execute (executor : Executor) (c : Command) : Operation Output :=
  ExceptT.mk fun m =>
    let a := executor m c
    (a.outcome, m.answered c a)

end CrossBuild
