import CrossBuild.Shell.Become
import CrossBuild.Shell.Builtin.Arguments
import CrossBuild.Shell.Builtin.Condition
import CrossBuild.Shell.Builtin.Control
import CrossBuild.Shell.Builtin.Input
import CrossBuild.Shell.Builtin.Names
import CrossBuild.Shell.Builtin.Place

/-!
# Commands of the shell's own

Every such command by its name, among them those that run other commands.
-/
namespace CrossBuild.Shell

/-! ## 1. Commands that run commands -/

/-- The command `eval`. -/
def evaluateText (perform : Perform) (mode : Mode) (arguments : List String) : ShellM Nat :=
  if arguments.isEmpty then return 0
  else perform (.text { isTested := mode.isTested } (Text.joinWith " " arguments))

/-- The text of a script in a file; characters that end texts are left out. -/
def scriptOf (data : ByteArray) : String :=
  String.ofList ((data.toList.filter (· != 0)).map Octets.ofByte)

/-- The bytes of a script's file; a directory is as good as an empty file. -/
def scriptBytes (file : String) : ShellM ByteArray := do
  match ← entryAt file with
  | .ok (.file data _) => return data
  | .ok _ => return ByteArray.empty
  | .error e =>
    let cause := if e = .notFound || e = .notADirectory then "No such file" else e.words
    fail ("cannot open " ++ file ++ ": " ++ cause)

/-- The file of a script, which is looked for on the search path. -/
def scriptFile (name : String) : ShellM String := do
  if name.toList.contains '/' then return name
  else
    let names := (namesOn (← process).searchPath name).map Prod.fst
    match ← names.findM? isFileAt with
    | some file => return file
    | none => fail (name ++ ": not found")

/-- The command `.`, which runs a script in the shell itself. -/
def runFile (perform : Perform) (arguments : List String) : ShellM Nat := do
  match ← withoutOptions arguments with
  | [] => return 0
  | name :: _ =>
    let file ← scriptFile name
    let data ← scriptBytes file
    modifyProcess fun p => { p with command := some file }
    let status ← perform (.file false (scriptOf data))
    modifyProcess fun p =>
      match p.skip with
      | .function _ => { p with skip := .nothing }
      | _ => p
    return status

/-- The command `exec`. -/
def becomeCommand (perform : Perform) (arguments : List String) : ShellM Nat := do
  let rest ← withoutOptions arguments
  if rest.isEmpty then return 0
  else
    modifyProcess fun p => (p.setOption .interactive false).setOption .monitor false
    becomeNamed perform (← process).searchPath 0 rest

/-! ## 2. All of them -/

/-- Runs a command of the shell's own by its name; the status. -/
def runBuiltin (perform : Perform) (mode : Mode) (name : String) (arguments : List String) :
    ShellM Nat :=
  match name with
  | ":" | "true" => return 0
  | "false" => return 1
  | "." => runFile perform arguments
  | "[" => bracketTest arguments
  | "alias" => setAliases arguments
  | "bg" | "fg" => resumeJob arguments
  | "break" => leaveLoops false arguments
  | "cd" | "chdir" => changeDirectory arguments
  | "command" => describeCommand arguments
  | "continue" => leaveLoops true arguments
  | "echo" => echo arguments
  | "eval" => evaluateText perform mode arguments
  | "exec" => becomeCommand perform arguments
  | "exit" => leaveShell arguments
  | "export" => exportVariables arguments
  | "getopts" => nextScriptOption arguments
  | "hash" => hash arguments
  | "jobs" => listJobs arguments
  | "kill" => killProcesses arguments
  | "local" => localVariables arguments
  | "printf" => printf arguments
  | "pwd" => printDirectory arguments
  | "read" => readVariables arguments
  | "readonly" => protectVariables arguments
  | "return" => leaveFunction arguments
  | "set" => setAll arguments
  | "shift" => shiftArguments arguments
  | "test" => test arguments
  | "times" => showTimes
  | "trap" => setAction arguments
  | "type" => describeAll arguments
  | "ulimit" => showLimit arguments
  | "umask" => setMask arguments
  | "unalias" => unalias arguments
  | "unset" => unsetNames arguments
  | "wait" => waitForJobs perform arguments
  | _ => return 127

/-- Whether a command takes assignments as arguments, which are expanded as such. -/
def takesAssignments (name : String) : Bool :=
  name = "alias" || name = "export" || name = "local" || name = "readonly"

end CrossBuild.Shell
