import CrossBuild.Shell.Builtin.Output
import CrossBuild.Shell.Location

/-!
# The directory and the mask of a shell

The commands `cd`, `pwd` and `umask`.  A shell knows its directory by a name,
in which `..` takes away the name before it, whatever that leads to; the
place that the system knows counts only if it is asked for.
-/
namespace CrossBuild.Shell

/-! ## 1. Names of directories -/

/-- A name without its last part, where the last character comes first; `least` characters
at the start stay. -/
def withoutLastPart (least : Nat) : List Char → List Char
  | c :: rest =>
    if (c :: rest).length ≤ least then c :: rest
    else if rest.head? == some '/' then rest
    else withoutLastPart least rest
  | [] => []

/-- A name followed by the parts of another one, where the last character comes first. -/
def followParts (least : Nat) : List Char → List String → List Char
  | name, [] => name
  | name, part :: rest =>
    if part = "" || part = "." then followParts least name rest
    else if part = ".." then followParts least (withoutLastPart least name) rest
    else followParts least ('/' :: (part.toList.reverse ++ name)) rest

/-- The name of the directory that `name` leads to from the directory of a name. -/
def nameFrom (directory name : String) : String :=
  let isDouble (cs : List Char) : Bool :=
    match cs with
    | '/' :: '/' :: '/' :: _ => false
    | '/' :: '/' :: _ => true
    | _ => false
  let (start, least) : List Char × Nat :=
    if name.toList.head? == some '/' then
      if isDouble name.toList then (['/', '/'], 2) else (['/'], 1)
    else
      let start := directory.toList.reverse
      let start := if start.head? == some '/' then start else '/' :: start
      (start, if 1 < start.length && directory.toList[1]? == some '/' then 2 else 1)
  let cs := followParts least start (Text.splitOn '/' name)
  String.ofList (if least < cs.length then cs.tail else cs).reverse

/-- The name by which the system knows the directory; it is empty if the directory is gone. -/
def systemName : ShellM String := do
  let place := (← process).directory
  if (← files).lookup? place = some .directory then
    return Octets.ofText ("/" ++ "/".intercalate place)
  else
    complain ("getcwd() failed: " ++ FileError.notFound.words)
    return ""

/-! ## 2. Changing the directory -/

/-- Sets a variable that programs are told of. -/
def setExported (name value : String) : ShellM Unit :=
  setVariableAs name (some value) { isExported := true }

/-- Goes to a directory; false if that is impossible. -/
def goTo (isPhysical : Bool) (name : String) : ShellM Bool := do
  let p ← process
  let logical := if isPhysical || p.directoryName = "" then none else some (nameFrom p.directoryName name)
  match ← locate (logical.getD name) with
  | .error _ => return false
  | .ok place =>
    if (← files).lookup? place ≠ some .directory then return false
    else
      modifyProcess fun p => { p with directory := place }
      let new ← match logical with
        | some name => pure name
        | none => systemName
      setExported "OLDPWD" p.directoryName
      modifyProcess fun p => { p with directoryName := new }
      setExported "PWD" new
      modifyProcess fun p => { p with
        located := p.located.map fun (name, x) => (name, { x with isStale := true }) }
      return true

/-- Whether the place that the system knows is asked for. -/
def isPhysical (options : List (Char × String)) : Bool :=
  (options.getLast?.map Prod.fst) == some 'P'

/-- Whether a name begins with a part that leads nowhere but from the directory itself. -/
def beginsHere (name : String) : Bool :=
  let first := (Text.splitOn '/' name).headD ""
  name.toList.head? == some '/' || first = "." || first = ".."

/-- The command `cd`. -/
def changeDirectory (arguments : List String) : ShellM Nat := do
  let (options, rest) ← readOptions "LP" "" arguments
  let p ← process
  let (target, isBack) : String × Bool :=
    match rest.head? with
    | none => ((p.value? "HOME").getD "", false)
    | some "-" => ((p.value? "OLDPWD").getD "", true)
    | some name => (name, false)
  let physical := isPhysical options
  let finish (isShown : Bool) : ShellM Nat := do
    if isShown then say ((← process).directoryName ++ "\n")
    return 0
  let goThere (name : String) (isShown : Bool) : ShellM Nat := do
    if ← goTo physical name then finish isShown else fail ("can't cd to " ++ name)
  if beginsHere target then goThere target isBack
  else
    let target := if target = "" then "." else target
    let candidates := (p.value? "CDPATH").map (namesOn · target)
    match ← (candidates.getD []).findM? (fun x => isDirectoryAt x.1) with
    | some (name, isNamed) =>
      if ← goTo physical name then finish (isBack || isNamed) else fail ("can't cd to " ++ target)
    | none => goThere target isBack

/-- The command `pwd`. -/
def printDirectory (arguments : List String) : ShellM Nat := do
  let (options, _) ← readOptions "LP" "" arguments
  let name ← if isPhysical options then systemName else do pure (← process).directoryName
  say (name ++ "\n")
  return 0

/-! ## 3. The mask of permissions -/

/-- The letters of a set of permissions of one class of users. -/
def permissionLetters (bits : Nat) : String :=
  (if bits &&& 4 != 0 then "r" else "") ++ (if bits &&& 2 != 0 then "w" else "") ++
    (if bits &&& 1 != 0 then "x" else "")

/-- All permissions. -/
def allPermissions : Nat := 511

/-- The classes of users that a letter names, as the least permission of each. -/
def classBits : Char → Nat
  | 'u' => 64
  | 'g' => 8
  | 'o' => 1
  | _ => 73

/-- The permissions that a letter names, where `allowed` are those allowed now. -/
def permissionBits (allowed : Nat) : Char → Nat
  | 'r' => 4
  | 'w' => 2
  | 'x' => 1
  | 'u' => allowed >>> 6
  | 'g' => allowed >>> 3
  | 'o' => allowed
  | 'X' => if allowed &&& 73 != 0 then 1 else 0
  | _ => 0

/-- Reads changes of permissions: what is allowed in the end, and what cannot be read.
`classes` are those of the change before, `allowed` is what was allowed at first.  The
bound is the length of the text. -/
def changedPermissions (allowed : Nat) : Nat → (classes now : Nat) → List Char → Nat × List Char
  | 0, _, now, cs => (now, cs)
  | n + 1, classes, now, cs =>
    let letters := cs.takeWhile "augo".toList.contains
    let classes := letters.foldl (fun bits c => bits ||| classBits c) classes
    let classes := if classes = 0 then 73 else classes
    match cs.drop letters.length with
    | [] => (now, [])
    | operation :: cs =>
      if !("=+-".toList.contains operation) then (now, operation :: cs)
      else
        let letters := cs.takeWhile "rwxugoXs".toList.contains
        let bits := letters.foldl (fun bits c => bits ||| permissionBits allowed c) 0
        let bits := (bits &&& 7) * classes
        let now :=
          if operation == '-' then now &&& (allPermissions ^^^ bits)
          else if operation == '+' then now ||| bits
          else bits ||| (now &&& (allPermissions ^^^ (classes * 7)))
        match cs.drop letters.length with
        | [] => (now, [])
        | ',' :: cs => if cs.isEmpty then (now, []) else changedPermissions allowed n 0 now cs
        | c :: cs =>
          if "=+-".toList.contains c then changedPermissions allowed n classes now (c :: cs)
          else (now, c :: cs)

/-- A mask as an octal number of four digits. -/
def octalMask (mask : Nat) : String :=
  let digits := String.ofList (Nat.toDigits 8 mask)
  String.ofList (List.replicate (4 - digits.length) '0') ++ digits

/-- The command `umask`. -/
def setMask (arguments : List String) : ShellM Nat := do
  let (options, rest) ← readOptions "S" "" arguments
  let mask := (← process).fileMask
  let allowed := allPermissions ^^^ mask
  let set (mask : Nat) : ShellM Nat := do
    modifyProcess fun p => { p with fileMask := mask &&& allPermissions }
    return 0
  match rest.head? with
  | none =>
    if options.isEmpty then say (octalMask mask ++ "\n")
    else
      let letters (n : Nat) : String := permissionLetters (allowed >>> n)
      say ("u=" ++ letters 6 ++ ",g=" ++ letters 3 ++ ",o=" ++ letters 0 ++ "\n")
    return 0
  | some word =>
    let cs := word.toList
    if cs.head?.any Char.isDigit then
      if cs.all isOctal then set (cs.foldl (fun n c => n * 8 + (c.toNat - '0'.toNat)) 0)
      else fail ("Illegal number: " ++ word)
    else
      let (now, rest) := changedPermissions allowed (cs.length + 1) 0 allowed cs
      if rest.isEmpty then set (allPermissions ^^^ now) else fail ("Illegal mode: " ++ word)

end CrossBuild.Shell
