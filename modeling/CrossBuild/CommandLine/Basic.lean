import CrossBuild.Build.Request
import CrossBuild.CommandLine.Reader
import CrossBuild.Command
import CrossBuild.Settings.Load

/-!
# Command lines

A command line names a task and the options that all tasks share.  The
shared options may stand before the task's name or after it; given in both
places, the later ones win.  The format may also come from the environment,
which every command line overrules.
-/
namespace CrossBuild

/-- A build to make, or to verify. -/
structure BuildTask where
  /-- The build. -/
  request : BuildRequest
  /-- The variant, when it is not that of the settings. -/
  configuration : Option String := none
  deriving DecidableEq, Repr

/-- An artifact to locate. -/
structure LocateTask where
  /-- The artifact. -/
  artifact : Artifact
  /-- The variant, when it is not that of the settings. -/
  configuration : Option String := none
  deriving DecidableEq, Repr

/-- A built program to run. -/
structure RunTask where
  /-- Its name. -/
  name : String
  /-- What it is given. -/
  options : RunOptions := {}
  /-- The variant, when it is not that of the settings. -/
  configuration : Option String := none
  deriving DecidableEq, Repr

/-- What a command line asks for. -/
inductive Task where
  /-- List the formats, as a table or as JSON. -/
  | formats (json : Bool)
  /-- Check that the build tool of a format is there. -/
  | check (format : String)
  /-- Build. -/
  | build (task : BuildTask)
  /-- Build again, and fail if anything was done. -/
  | upToDate (task : BuildTask)
  /-- Print where an artifact is. -/
  | path (task : LocateTask)
  /-- Run a built program. -/
  | run (task : RunTask)
  /-- Print the completions for a shell. -/
  | completions (shell : CommandLine.CompletionShell)
  deriving DecidableEq, Repr

/-- A command line. -/
structure CommandLine where
  /-- Whether details are logged. -/
  verbose : Bool := false
  /-- Whether colours are unwanted. -/
  noColor : Bool := false
  /-- The format under test. -/
  format : Option String := none
  /-- The entries of the filter of formats. -/
  validFormats : List String := []
  /-- What is asked for. -/
  task : Task
  deriving DecidableEq, Repr

namespace CommandLine

/-! ## 1. The grammars -/

/-- The option that every command has. -/
def helpOption : OptionRule :=
  { name := "help", letter := some 'h', shape := .help }

/-- The option for the format under test. -/
def formatOption : OptionRule :=
  { name := "format", letter := some 'f', shape := .single .any }

/-- The other options that all tasks share. -/
def sharedOptions : List OptionRule :=
  [{ name := "verbose", letter := some 'v' }, { name := "no-color" },
   { name := "valid-formats", shape := .repeated (some ',') false }]

/-- An option with a value of any text. -/
def textOption (name : String) : OptionRule :=
  { name, shape := .single .any }

/-- The options of a build. -/
def buildOptions : List OptionRule :=
  [textOption "target", { name := "all" }, textOption "config",
   { name := "chdir", shape := .single .path }, { name := "rebuild" }, textOption "symroot",
   { name := "arg", shape := .repeated none true }]

/-- The grammar of a task.  The task that checks a format takes it by position, and
so has no option for it. -/
def grammar? (command : String) : Option Grammar :=
  let common := helpOption :: formatOption :: sharedOptions
  match command with
  | "formats" => some { options := { name := "json" } :: common }
  | "check" => some { options := helpOption :: sharedOptions, positionals := [("format", .any)] }
  | "build" | "up-to-date" =>
    some
      { options := buildOptions ++ common
        positionals := [("project", .path)]
        exclusive := some ("target", "all") }
  | "path" =>
    some
      { options :=
          [{ name := "kind", shape := .single .artifactKind }, textOption "config",
            { name := "chdir", shape := .single .path }, textOption "libdir",
            { name := "bare" }] ++ common
        positionals := [("name", .any)] }
  | "run" =>
    some
      { options := [textOption "config", { name := "chdir", shape := .single .path }] ++ common
        positionals := [("name", .any)]
        rest := some "args" }
  | "completions" => some { options := common, positionals := [("shell", .shell)] }
  | _ => none

/-- The names of the tasks. -/
def taskNames : List String :=
  ["formats", "check", "build", "up-to-date", "path", "run", "completions"]

/-- The word that asks for help. -/
def helpCommand : String := "help"

/-- The grammar of what stands before the task's name. -/
def rootGrammar : Grammar :=
  { options :=
      helpOption :: { name := "version", letter := some 'V', shape := .version } ::
        formatOption :: sharedOptions
    commands := taskNames ++ [helpCommand] }

/-! ## 2. The tasks -/

/-- The target that is given. -/
def targetOf (given : Given) : Target :=
  match given.value? "target" with
  | some name => .named name
  | none => if given.has "all" then .all else .default

/-- The build that is given. -/
def buildTaskOf (given : Given) : BuildTask :=
  { request :=
      { project := ⟨(given.value? "project").getD ""⟩
        target := targetOf given
        options :=
          { chdir := (given.value? "chdir").map Path.mk
            arguments := given.values "arg"
            rebuild := given.has "rebuild"
            symroot := (given.value? "symroot").elim .default SymRoot.ofValue } }
    configuration := given.value? "config" }

/-- The artifact that is given; a kind that is not given is that of programs. -/
def locateTaskOf (given : Given) : LocateTask :=
  { artifact :=
      { name := (given.value? "name").getD ""
        kind := ((given.value? "kind").bind ArtifactKind.parse?).getD .executable
        chdir := (given.value? "chdir").map Path.mk
        libdir := given.value? "libdir"
        bare := given.has "bare" }
    configuration := given.value? "config" }

/-- The program that is given. -/
def runTaskOf (given : Given) : RunTask :=
  { name := (given.value? "name").getD ""
    options :=
      { chdir := (given.value? "chdir").map Path.mk
        arguments := given.values "args" }
    configuration := given.value? "config" }

/-- The task of a name, with what is given to it. -/
def taskOf? (command : String) (given : Given) : Option Task :=
  match command with
  | "formats" => some (.formats (given.has "json"))
  | "check" => some (.check ((given.value? "format").getD ""))
  | "build" => some (.build (buildTaskOf given))
  | "up-to-date" => some (.upToDate (buildTaskOf given))
  | "path" => some (.path (locateTaskOf given))
  | "run" => some (.run (runTaskOf given))
  | "completions" => ((given.value? "shell").bind CompletionShell.parse?).map .completions
  | _ => none

/-! ## 3. Reading -/

/-- The usage error of a question for help on commands. -/
def helpError : List String → UsageError
  | [] => .helpWanted
  | [command] =>
    if rootGrammar.commands.contains command then .helpWanted else .invalidSubcommand
  | _ => .invalidSubcommand

/-- The usage error of a command line without a task. -/
def missingTask (env : Environment) (given : Given) : UsageError :=
  if given.isEmpty && (env.get? Settings.formatVariable).isNone then .nothingGiven
  else .missingSubcommand

/-- The command line whose options are given before and after the task's name. -/
def ofGiven (env : Environment) (before after : Given) (task : Task) : CommandLine :=
  { verbose := before.has "verbose" || after.has "verbose"
    noColor := before.has "no-color" || after.has "no-color"
    format :=
      after.value? "format" <|> before.value? "format" <|> env.get? Settings.formatVariable
    validFormats :=
      if after.has "valid-formats" then after.values "valid-formats"
      else before.values "valid-formats"
    task }

/-- Reads the arguments of a program. -/
def parse (env : Environment) (arguments : List String) : Except UsageError CommandLine := do
  match ← Reading.takeAll rootGrammar {} arguments with
  | (r, none) => throw (missingTask env (← r.settle).given)
  | (r, some (command, rest)) =>
    if command = helpCommand then throw (helpError rest)
    match grammar? command with
    | none => throw .invalidSubcommand
    | some grammar =>
      let after ← Reading.readAll grammar rest
      let before := (← r.settle).given
      match taskOf? command after with
      | none => throw .invalidValue
      | some task => return ofGiven env before after task

end CommandLine

end CrossBuild
