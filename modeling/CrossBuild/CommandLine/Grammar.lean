import CrossBuild.Artifact

/-!
# What a command accepts

A command's grammar is data: its options, its positional arguments, and the
commands that may follow.  What a user gives is read against a grammar by
`CrossBuild.CommandLine.Reader`, with the usage errors below.
-/
namespace CrossBuild.CommandLine

/-- Why a command line is not run. -/
inductive UsageError where
  /-- An argument that the command does not take. -/
  | unknownArgument
  /-- A required argument is missing. -/
  | missingRequiredArgument
  /-- A word that names no command. -/
  | invalidSubcommand
  /-- A value that is none of the possible ones, or missing. -/
  | invalidValue
  /-- A value that is refused by its meaning. -/
  | valueValidation
  /-- Two arguments that cannot go together, or one that is given twice. -/
  | argumentConflict
  /-- A value for an option that takes none. -/
  | tooManyValues
  /-- The command is missing. -/
  | missingSubcommand
  /-- Nothing is given at all. -/
  | nothingGiven
  /-- The user asks for help. -/
  | helpWanted
  /-- The user asks for the version. -/
  | versionWanted
  deriving DecidableEq, Repr

namespace UsageError

/-- Whether the user asked for the text that is printed instead. -/
def isAnswer (e : UsageError) : Bool :=
  e = helpWanted || e = versionWanted

/-- The exit status of a program that is used that way. -/
def exitStatus (e : UsageError) : Nat :=
  if e.isAnswer then 0 else 2

end UsageError

/-- The shells that completions are made for. -/
inductive CompletionShell where
  /-- The Bourne-again shell. -/
  | bash
  /-- Elvish. -/
  | elvish
  /-- The friendly interactive shell. -/
  | fish
  /-- PowerShell. -/
  | powershell
  /-- The Z shell. -/
  | zsh
  deriving DecidableEq, Repr

namespace CompletionShell

/-- The shells in the order of their names. -/
def all : List CompletionShell :=
  [bash, elvish, fish, powershell, zsh]

/-- The name of a shell. -/
def name : CompletionShell → String
  | bash => "bash"
  | elvish => "elvish"
  | fish => "fish"
  | powershell => "powershell"
  | zsh => "zsh"

/-- The shell of a name. -/
def parse? (text : String) : Option CompletionShell :=
  all.find? fun s => s.name == text

/-- Every shell is read back from its name. -/
theorem parse?_name (s : CompletionShell) : parse? s.name = some s := by
  cases s <;> rfl

end CompletionShell

/-- What the value of an argument must be. -/
inductive ValueRule where
  /-- Any text. -/
  | any
  /-- A path, which is not empty. -/
  | path
  /-- The name of a kind of artifact. -/
  | artifactKind
  /-- The name of a shell. -/
  | shell
  deriving DecidableEq, Repr

/-- The error that a value is, if it is refused. -/
def ValueRule.refusal? (rule : ValueRule) (value : String) : Option UsageError :=
  match rule with
  | any => none
  | path => if value = "" then some .invalidValue else none
  | artifactKind => if (ArtifactKind.parse? value).isNone then some .valueValidation else none
  | shell => if (CompletionShell.parse? value).isNone then some .invalidValue else none

/-- How an option is given. -/
inductive OptionShape where
  /-- Without a value, at most once. -/
  | switch
  /-- With a value, at most once. -/
  | single (rule : ValueRule)
  /-- With a value each time.  A separator splits it; with `takesHyphens`, whatever
  follows is the value, even if it looks like an option. -/
  | repeated (separator : Option Char) (takesHyphens : Bool)
  /-- Without a value; asks for help. -/
  | help
  /-- Without a value; asks for the version. -/
  | version
  deriving DecidableEq, Repr

/-- Whether an option has a value. -/
def OptionShape.takesValue : OptionShape → Bool
  | single _ | repeated _ _ => true
  | switch | help | version => false

/-- An option. -/
structure OptionRule where
  /-- The name, which is written after two hyphens. -/
  name : String
  /-- The letter, which is written after one hyphen. -/
  letter : Option Char := none
  /-- How it is given. -/
  shape : OptionShape := .switch
  deriving DecidableEq, Repr

/-- What a command accepts. -/
structure Grammar where
  /-- The options. -/
  options : List OptionRule
  /-- The positional arguments, all of them required. -/
  positionals : List (String × ValueRule) := []
  /-- The name for the arguments after a double hyphen. -/
  rest : Option String := none
  /-- The commands that may follow. -/
  commands : List String := []
  /-- Two options of which only one may be given. -/
  exclusive : Option (String × String) := none
  deriving Repr

namespace Grammar

/-- The option of a name. -/
def byName? (g : Grammar) (name : String) : Option OptionRule :=
  g.options.find? fun o => o.name == name

/-- The option of a letter. -/
def byLetter? (g : Grammar) (letter : Char) : Option OptionRule :=
  g.options.find? fun o => o.letter == some letter

end Grammar

end CrossBuild.CommandLine
