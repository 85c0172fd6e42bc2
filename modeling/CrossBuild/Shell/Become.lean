import CrossBuild.Shell.Child
import CrossBuild.Shell.Lookup

/-!
# Becoming another program

A process that becomes another program keeps its number, its directory, its
descriptors and what it tells programs of its variables, and loses everything
else.  It ends when the program ends.
-/
namespace CrossBuild.Shell

/-- What stays of a process when it becomes another program. -/
def Process.stripped (p : Process) : Process :=
  { number := p.number
    ancestors := p.ancestors
    rootNumber := p.number
    directory := p.directory
    directoryName := ""
    bindings := p.environment.map fun (name, value) =>
      (name, { value := some value, isExported := true })
    traps := p.traps.filter fun x => x.2 == ""
    descriptors := p.descriptors
    fileMask := p.fileMask }

/-- Becomes another program, and ends with it. -/
def become {α : Type} (perform : Perform) (image : Image) : ShellM α := do
  modifyProcess Process.stripped
  let ending ← toItsEnd perform do setStatus (← perform (.image image))
  throw (.ended ending)

/-- What is started for arguments, of which the first names a program on a path; `first` is
the number of the directory that is tried first. -/
def imageFor (path : String) (first : Nat) (arguments : List String) :
    ShellM (Except FileError Image) := do
  let t ← files
  let directory := (← process).directory
  let name := arguments.headD ""
  if name.toList.contains '/' then return Image.ofFileOrScript t directory name arguments
  else
    let names := ((namesOn path name).map Prod.fst).drop first
    return firstImage t directory arguments .notFound names
where
  /-- The first image among names; else the last cause that is none of a missing file. -/
  firstImage (t : FileTree) (directory : Place) (arguments : List String) (cause : FileError) :
      List String → Except FileError Image
    | [] => .error cause
    | name :: rest =>
      match Image.ofFileOrScript t directory name arguments with
      | .ok image => .ok image
      | .error e =>
        let isMissing := e = .notFound || e = .notADirectory
        firstImage t directory arguments (if isMissing then cause else e) rest

/-- Becomes the program that arguments name, or ends for the cause that prevents it. -/
def becomeNamed {α : Type} (perform : Perform) (path : String) (first : Nat)
    (arguments : List String) : ShellM α := do
  match ← imageFor path first arguments with
  | .ok image => become perform image
  | .error e =>
    setStatus (startStatus e)
    complainMissing (arguments.headD "") e
    throw (.exit false)

end CrossBuild.Shell
