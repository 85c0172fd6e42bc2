import CrossBuild.Shell.Location
import CrossBuild.Shell.Stream

/-!
# What names of commands stand for

A name with a separator is the path of a program.  Any other name is a
function, a command of the shell's own, or a program on the search path,
whichever comes first.  Where a program was found is remembered until the
search path changes; after a change of the directory it is looked at again,
unless an absolute directory holds it.
-/
namespace CrossBuild.Shell

/-- What the name of a command stands for. -/
inductive Found where
  /-- A command of the shell's own. -/
  | builtin
  /-- A function. -/
  | function (f : Function)
  /-- A program: the number of the directory on the search path, and none for a path. -/
  | program (entry : Option Nat)
  /-- Nothing, for a cause. -/
  | nothing (cause : FileError)

/-- The shell's words for a cause for which a program cannot be started. -/
def startFault (e : FileError) : String :=
  if e = .notFound || e = .notADirectory then "not found" else e.words

/-- The status of a program that cannot be started. -/
def startStatus (e : FileError) : Nat :=
  if e = .notFound || e = .notADirectory || e = .tooManyLinks || e = .nameTooLong then 127 else 126

/-- Looks for a program among names with their numbers; `known` is where it was found
before. -/
def searchIn (known : Option Nat) (cause : FileError) : List (String × Nat) →
    ShellM (Except FileError Nat)
  | [] => return .error cause
  | (name, i) :: rest => do
    let isFixed := name.toList.head? == some '/' && known.any (i ≤ ·)
    if isFixed then
      if known = some i then return .ok i else searchIn known cause rest
    else
      match ← entryAt name with
      | .error e =>
        let isMissing := e = .notFound || e = .notADirectory
        searchIn known (if isMissing then cause else e) rest
      | .ok (.file _ true) => return .ok i
      | .ok _ => searchIn known .permissionDenied rest

/-- Remembers where a program was found, or forgets it. -/
def remember (name : String) (entry : Option Nat) : ShellM Unit :=
  modifyProcess fun p =>
    let isKnown := p.located.any fun x => x.1 == name
    let located :=
      match entry with
      | none => p.located.filter fun x => x.1 != name
      | some i =>
        if isKnown then p.located.map fun x => if x.1 = name then (name, { entry := i }) else x
        else p.located ++ [(name, { entry := i })]
    { p with located }

/-- Looks for a program on a path. -/
def searchProgram (path name : String) : ShellM Found := do
  let p ← process
  let isUsual := path = p.searchPath
  let known := if isUsual then p.located.lookup name else none
  match known with
  | some { entry, isStale := false } => return .program (some entry)
  | _ =>
    let names := ((namesOn path name).map Prod.fst).zipIdx
    let found ← searchIn (known.map (·.entry)) .notFound names
    if isUsual then remember name found.toOption
    match found with
    | .ok i => return .program (some i)
    | .error e => return .nothing e

/-- What the name of a command stands for; functions count only if `mayBeFunction`. -/
def findCommand (mayBeFunction : Bool) (path name : String) : ShellM Found := do
  let p ← process
  if name.toList.contains '/' then return .program none
  else
    match (if mayBeFunction then p.functions.lookup name else none) with
    | some f => return .function f
    | none => if isBuiltin name then return .builtin else searchProgram path name

/-- Reports that the name of a command stands for nothing. -/
def complainMissing (name : String) (cause : FileError) : ShellM Unit :=
  complain (name ++ ": " ++ startFault cause)

/-- The path of a program that was found on a path. -/
def foundPath (path name : String) (entry : Option Nat) : String :=
  match entry.bind fun i => (namesOn path name)[i]? with
  | some (found, _) => found
  | none => name

/-- The path on which the system's own programs are. -/
def standardPath : String := "/usr/local/sbin:/usr/local/bin:/usr/sbin:/usr/bin:/sbin:/bin"

/-! ## The order of tables -/

/-- The list of a table in which a name is kept, where the table has so many lists. -/
def listOf (count : Nat) (name : String) : Nat :=
  (name.foldl (fun n c => n + c.toNat) (((name.toList.head?.map Char.toNat).getD 0) * 16)) % count

/-- Names in the order in which a table shows them: by their lists, and in one list as they
came. -/
def tableOrder {α : Type} (count : Nat) (xs : List (String × α)) : List (String × α) :=
  xs.mergeSort fun x y => listOf count x.1 ≤ listOf count y.1

end CrossBuild.Shell
