import CrossBuild.Files.Error
import CrossBuild.Path
import CrossBuild.Text.Search

/-!
# Failures of operations on the system

An operation that fails says what was being done and why it failed.  The
texts of a failure form a chain, from what was being done to the root cause.
-/
namespace CrossBuild

/-- What failed, with its cause. -/
inductive Failure where
  /-- A directory could not be made. -/
  | makeDirectory (path : Path) (cause : FileError)
  /-- A file could not be read. -/
  | readFile (path : Path) (cause : FileError)
  /-- A configuration file could not be read. -/
  | readConfig (path : Path) (cause : FileError)
  /-- A configuration file has a fault. -/
  | parseConfig (path : Path) (fault : String)
  /-- A fixture could not be listed at some path. -/
  | walkFixture (source at_ : Path) (cause : FileError)
  /-- A file could not be copied. -/
  | copyFile (source target : Path) (cause : FileError)
  /-- An entry could not be moved. -/
  | moveEntry (source target : Path) (cause : FileError)
  /-- A program could not be started. -/
  | startProgram (program : Path) (cause : FileError)
  /-- A command was run for which no answer is prepared. -/
  | unexpectedCommand (command : String)
  /-- Any other failure, in words, with the words for its causes. -/
  | stated (text : String) (causes : List String)
  deriving DecidableEq, Repr, Inhabited

namespace Failure

/-- What was being done, in words. -/
def summary : Failure → String
  | makeDirectory path _ => "failed to create directory: " ++ path.text
  | readFile path _ => "failed to read file: " ++ path.text
  | readConfig path _ => "failed to read config file: " ++ path.text
  | parseConfig path _ => "failed to parse config file: " ++ path.text
  | walkFixture source _ _ => "failed to walk fixture: " ++ source.text
  | copyFile source target _ => "failed to copy " ++ source.text ++ " to " ++ target.text
  | moveEntry source target _ => "failed to move " ++ source.text ++ " to " ++ target.text
  | startProgram program _ => "failed to execute `" ++ program.text ++ "`"
  | unexpectedCommand command => "unexpected command: " ++ command
  | stated text _ => text

/-- The causes, in words, the root cause last. -/
def causes : Failure → List String
  | makeDirectory _ cause | readFile _ cause | readConfig _ cause | copyFile _ _ cause
  | moveEntry _ _ cause | startProgram _ cause => [cause.message]
  | parseConfig _ fault => [fault]
  | walkFixture _ path cause =>
    ["IO error for operation on " ++ path.text ++ ": " ++ cause.message, cause.message]
  | unexpectedCommand _ => []
  | stated _ causes => causes

/-- All texts of the chain in one line. -/
def full (f : Failure) : String :=
  Text.joinWith ": " (f.summary :: f.causes)

end Failure

end CrossBuild
