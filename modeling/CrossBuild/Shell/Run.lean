import CrossBuild.Shell.Compound
import CrossBuild.Shell.Utility

/-!
# Shells from start to end

The reading and running of scripts line by line, the start of a shell by its
arguments, and the evaluator as a whole: `perform` does any task within a
depth, and `runImage` runs a program on files and gives what it leaves.
-/
namespace CrossBuild.Shell

/-! ## 1. Scripts -/

/-- Shows the lines of a script from one place up to the line that holds another one, and
gives the end of that. -/
def showLines (script : String) (shown read : Nat) : ShellM Nat := do
  let cs := script.toList
  let rest := (cs.drop (read - 1)).dropWhile (· != '\n')
  let stop := min cs.length (cs.length - rest.length + 1)
  if shown < stop && (← process).has .verbose then
    sayFault (String.ofList ((cs.drop shown).take (stop - shown)))
  return max shown stop

/-- Reads and runs what a reader has left, line by line; `status` is that of the last
command. -/
def runLines (perform : Perform) (mode : Mode) (isOwn : Bool) (shows : Option String) :
    Nat → Reader → (shown status : Nat) → ShellM Nat
  | 0, _, _, status => return status
  | n + 1, r, shown, status => do
    let p ← process
    match { r with documents := p.documents, aliases := p.aliases }.nextCommand with
    | .error e =>
      modifyProcess fun p => { p with faultLine := e.line }
      fail ("Syntax error: " ++ e.message)
    | .ok (line, r) =>
      let shown ←
        match shows with
        | none => pure 0
        | some script => showLines script shown (script.length - r.rest.length)
      match line with
      | .fileEnd => return status
      | .command c =>
        modifyProcess fun p => { p with
          documents := r.documents
          readLine := r.line
          ownLine := if isOwn then r.line else p.ownLine }
        let isLast := mode.isLast && r.isAtEnd
        let new ← perform (.node { mode with isLast } c)
        let status := if c.isSome then new else status
        if ← isSkipping then return status
        else runLines perform mode isOwn shows n r shown status

/-- Reads and runs a text. -/
def runText (perform : Perform) (mode : Mode) (script : String) : ShellM Nat :=
  runLines perform mode false none repeatLimit (Reader.ofText script) 0 0

/-- Reads and runs the text of a file, and shows it if that is asked for. -/
def runScript (perform : Perform) (isOwn : Bool) (script : String) : ShellM Nat :=
  runLines perform {} isOwn (some script) repeatLimit (Reader.ofText script) 0 0

/-! ## 2. The start of a shell -/

/-- The variables that a shell sets when it starts, unless it is told of them. -/
def defaultVariables : List (String × String) :=
  [("PATH", standardPath), ("PS1", "# "), ("PS2", "> "), ("PS4", "+ ")]

/-- The variables that a shell sets when it starts. -/
def initialVariables (p : Process) : List (String × String) :=
  [("IFS", defaultSeparators), ("OPTIND", "1"), ("PPID", toString (p.ancestors.headD 1))]

/-- Sets the variables of a shell that starts. -/
def importVariables : ShellM Unit :=
  modifyProcess fun p =>
    let told := p.bindings.filter fun x => isName x.1
    let put (isExported : Bool) (vs : List (String × Variable)) (x : String × String) :=
      putVariable x.1 (some { value := some x.2, isExported, isFixed := !isExported }) vs
    let missing := defaultVariables.filter fun x => !told.any fun y => y.1 == x.1
    let vs := missing.foldl (put false) told
    { p with
      bindings := (initialVariables p).foldl
        (fun vs x =>
          let isExported := (told.lookup x.1).any (·.isExported)
          put isExported vs x) vs }

/-- Finds the name of the directory of a shell that starts. -/
def nameDirectory : ShellM Unit := do
  let p ← process
  let told := (p.value? "PWD").filter fun name => name.toList.head? == some '/'
  let isRight ← match told with
    | none => pure false
    | some name => do
      match ← locate name with
      | .ok place => pure (place == p.directory && (← isDirectoryAt name))
      | .error _ => pure false
  let name ← if isRight then pure (told.getD "") else systemName
  modifyProcess fun p => { p with directoryName := name }
  setExported "PWD" name

/-- What a shell is to run. -/
inductive Origin where
  /-- A text among its arguments; the standard input may follow. -/
  | argument (script : String) (thenInput : Bool)
  /-- A file, with arguments. -/
  | file (name : String) (arguments : List String)
  /-- The standard input. -/
  | input

/-- Reads the arguments of a shell, and finds what it is to run. -/
def readArguments (arguments : List String) : ShellM Origin := do
  modifyProcess fun p => { p with name := arguments.headD "sh", faultLine := 0 }
  let rest := arguments.tail
  let s ← readSwitches true (rest.length + 1) { rest }
  if s.hasScript && s.rest.isEmpty then fail "-c requires an argument"
  if s.rest.isEmpty then modifyProcess fun p => p.setOption .stdin true
  checkTerminal
  let readsInput := (← process).has .stdin
  let setRest (name : Option String) (rest : List String) : ShellM Unit :=
    modifyProcess fun p => { p with name := name.getD p.name, arguments := rest }
  match s.rest with
  | [] => return .input
  | first :: others =>
    if s.hasScript then
      setRest others.head? others.tail
      return .argument first readsInput
    else if readsInput then
      setRest none s.rest
      return .input
    else return .file first others

/-- Runs a shell by its arguments, of which the first is its name. -/
def runShell (perform : Perform) (arguments : List String) : ShellM Nat := do
  importVariables
  nameDirectory
  let runInput : ShellM Unit := do
    let data := (← readAll 0).getD ByteArray.empty
    let _ ← perform (.file true (scriptOf data))
  match ← readArguments arguments with
  | .argument script thenInput =>
    let _ ← perform (.text { isLast := !thenInput } script)
    if thenInput then
      modifyProcess fun p => { p with skip := .nothing }
      runInput
  | .file name arguments =>
    let data ← scriptBytes name
    modifyProcess fun p => { p with name, arguments }
    let _ ← perform (.file true (scriptOf data))
  | .input => runInput
  return (← process).status

/-! ## 3. The evaluator -/

/-- Does a task, to a depth. -/
def perform : Nat → Perform
  | 0, _ => exhausted
  | n + 1, task =>
    match task with
    | .node mode c => runNode (perform n) mode c
    | .text mode script => runText (perform n) mode script
    | .file isOwn script => runScript (perform n) isOwn script
    | .image ⟨.shell, arguments⟩ => runShell (perform n) arguments
    | .image ⟨program, arguments⟩ => runUtility (perform n) program arguments

/-- How deep tasks go at most. -/
def depthLimit : Nat := 20000

/-- What a program leaves. -/
structure Outcome where
  /-- The files. -/
  files : FileTree
  /-- How the program ended. -/
  ending : Ending
  /-- What it wrote to the standard output. -/
  output : ByteArray
  /-- What it wrote to the standard error. -/
  faults : ByteArray

/-- The number of the first process. -/
def firstNumber : Nat := 4242

/-- Runs a program with a directory and an environment, and nothing to read. -/
def runImage (files : FileTree) (directory : Place) (environment : List (String × String))
    (image : Image) : Outcome :=
  let bindings := environment.foldl
    (fun vs (name, value) => putVariable name (some { value := some value, isExported := true }) vs) []
  let start : Session :=
    { process :=
        { number := firstNumber
          ancestors := [firstNumber - 1]
          rootNumber := firstNumber
          directory
          directoryName := ""
          bindings
          descriptors := [(0, 0), (1, 1), (2, 2)] }
      world :=
        { files
          streams := #[.null, .sink ByteArray.empty false, .sink ByteArray.empty false]
          nextNumber := firstNumber + 1 } }
  let run := perform depthLimit
  let operation : ShellM Ending := do
    let ending ← toItsEnd run do setStatus (← run (.image image))
    runWaiting run 0
    return ending
  let (result, s) := operation.run start
  let dataOf (i : Nat) : ByteArray :=
    match s.world.streams[i]? with
    | some (.sink data _) => data
    | _ => ByteArray.empty
  { files := s.world.files
    ending := match result with
      | .ok ending => ending
      | .error _ => .signalled 9
    output := dataOf 1
    faults := dataOf 2 }

end CrossBuild.Shell
