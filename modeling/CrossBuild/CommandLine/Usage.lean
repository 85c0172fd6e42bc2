import CrossBuild.CommandLine.Completion
import CrossBuild.Diagnostic

/-!
# Usage texts

What is printed instead of running a command line: the help, the version, or
what is wrong with the arguments.
-/
namespace CrossBuild.CommandLine

/-- The version of the program. -/
def version : String := "0.1.0"

/-- What a task does, in one line. -/
def summaryOfTask (command : String) : String :=
  match command with
  | "formats" => "List every format and how its build tool resolved"
  | "check" => "Check that the build tool of one format is available"
  | "build" => "Build a generated project in the current directory"
  | "up-to-date" => "Build again and verify that nothing was done"
  | "path" => "Print where a built artifact lands"
  | "run" => "Run a built executable"
  | "completions" => "Print the completions for a shell"
  | _ => "Print this help"

/-- A word in a column of a width. -/
def inColumn (width : Nat) (word : String) : String :=
  word.pushn ' ' (width - word.length)

/-- The help. -/
def help : String :=
  let widest := 13
  Diagnostic.lines ""
    (["Usage: " ++ programName ++ " [OPTIONS] <COMMAND>", "", "Commands:"] ++
      rootGrammar.commands.map fun c => "  " ++ inColumn widest c ++ summaryOfTask c)

namespace UsageError

/-- What is wrong with the arguments, in words. -/
def message : UsageError → String
  | unknownArgument => "unexpected argument"
  | missingRequiredArgument => "a required argument is missing"
  | invalidSubcommand => "unrecognized command"
  | invalidValue => "invalid or missing value"
  | valueValidation => "value refused"
  | argumentConflict => "arguments that cannot be used together"
  | tooManyValues => "unexpected value for an option without one"
  | missingSubcommand | nothingGiven => "a command is required"
  | helpWanted => "help"
  | versionWanted => "version"

/-- What is printed: the text that was asked for to the standard output, anything
else to the standard error. -/
def ending (e : UsageError) : String × String :=
  match e with
  | helpWanted => (help, "")
  | versionWanted => (programName ++ " " ++ version ++ "\n", "")
  | _ => ("", "error: " ++ e.message ++ "\n\n" ++ help)

end UsageError

end CrossBuild.CommandLine
