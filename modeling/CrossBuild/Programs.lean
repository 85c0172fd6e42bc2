import CrossBuild.Machine
import CrossBuild.Shell.Run

/-!
# Running the machine's own programs

The executor that starts programs for good: the working directory first,
then the program, which is found as the system finds it.  What a program
writes is read as text.
-/
namespace CrossBuild.Programs

/-- Whether a text can be handed to the system. -/
def isPassable (s : String) : Bool :=
  !s.toList.contains (Char.ofNat 0)

/-- Whether everything given to a command can be handed to the system. -/
def canPass (c : Command) : Bool :=
  isPassable c.program.text && c.arguments.all isPassable &&
    c.environment.all (fun x => isPassable x.1 && isPassable x.2) &&
    c.directory.all fun d => isPassable d.text

/-- The directory that a command runs in. -/
def directoryOf (m : Machine) (c : Command) : Except FileError Place :=
  match c.directory with
  | none => .ok m.directory
  | some path =>
    match m.files.resolve m.directory path with
    | .error e => .error e
    | .ok place =>
      match m.files.lookup? place with
      | some .directory => .ok place
      | some _ => .error .notADirectory
      | none => .error .notFound

/-- The environment of a command: that of the machine, with its own settings. -/
def environmentOf (m : Machine) (c : Command) : Environment :=
  c.environment.foldl (fun env x => env.set x.1 x.2) m.environment

/-- The search path when the environment has none. -/
def usualPath : String := "/bin:/usr/bin"

/-- Tries to start the first of some files that can be started; `wasDenied` says that one of
them may not be run, which then counts as the cause that none could. -/
def startFirst (start : String → Except FileError Shell.Image) :
    (cause : FileError) → (wasDenied : Bool) → List String → Except FileError Shell.Image
  | cause, wasDenied, [] => .error (if wasDenied then .permissionDenied else cause)
  | _, wasDenied, file :: rest =>
    match start file with
    | .ok image => .ok image
    | .error e =>
      if e = .permissionDenied then startFirst start e true rest
      else if e = .notFound || e = .notADirectory then startFirst start e wasDenied rest
      else .error e

/-- What is started for a command in a directory.  A program's name without a separator is
looked for on the search path.  If the command sets a search path of its own, that one is
used, and then a text without an interpreter counts as a script. -/
def imageOf (m : Machine) (c : Command) (directory : Place) : Except FileError Shell.Image :=
  let name := Octets.ofText c.program.text
  let arguments := name :: c.arguments.map Octets.ofText
  let own := c.environment.get? "PATH"
  if name = "" then .error .notFound
  else if name.toList.contains Path.separator then
    Shell.Image.ofFile m.files directory name arguments
  else
    let path := (own <|> m.environment.get? "PATH").getD usualPath
    let files := (Shell.namesOn (Octets.ofText path) name).map Prod.fst
    let start := if own.isSome then Shell.Image.ofFileOrScript else Shell.Image.ofFile
    startFirst (fun file => start m.files directory file arguments) .notFound false files

/-- Runs a command on a machine: the files afterwards, and the outcome or the
cause for which the program could not be started. -/
def runOn (m : Machine) (c : Command) : FileTree × Except FileError Output :=
  if !canPass c then (m.files, .error .argumentHasNul)
  else
    match directoryOf m c with
    | .error e => (m.files, .error e)
    | .ok directory =>
      match imageOf m c directory with
      | .error e => (m.files, .error e)
      | .ok image =>
        let environment := (environmentOf m c).map fun (key, value) =>
          (Octets.ofText key, Octets.ofText value)
        let o := Shell.runImage m.files directory environment image
        (o.files,
          .ok { status := o.ending.status?.map Int.ofNat
                stdout := Text.decodeLossy o.output.toList
                stderr := Text.decodeLossy o.faults.toList })

/-- The executor that starts programs. -/
def executor : Executor := fun m c =>
  let (files, outcome) := runOn m c
  { files
    events := [.running c.display]
    outcome := outcome.mapError (.startProgram c.program) }

end CrossBuild.Programs
