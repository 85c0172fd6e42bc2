import CrossBuild.Path
import CrossBuild.Text.Search

/-!
# Commands and their outcome

What is run, and what came of it.  Whoever runs commands is an argument of
the operations that need them (`CrossBuild.Executor`).
-/
namespace CrossBuild

/-- The settings of environment variables, in the order of their names. -/
abbrev Environment := List (String × String)

namespace Environment

/-- Sets a variable, keeping the order of names. -/
def set : Environment → String → String → Environment
  | [], key, value => [(key, value)]
  | (k, v) :: rest, key, value =>
    if key = k then (key, value) :: rest
    else if key < k then (key, value) :: (k, v) :: rest
    else (k, v) :: set rest key value

/-- Removes a variable. -/
def unset (env : Environment) (key : String) : Environment :=
  env.filter fun x => x.1 != key

/-- The value of a variable. -/
def get? (env : Environment) (key : String) : Option String :=
  env.lookup key

/-- The value of a variable, where an empty one counts as none. -/
def nonempty? (env : Environment) (key : String) : Option String :=
  (env.get? key).filter (· != "")

end Environment

/-- A program to run, with all that is given to it. -/
structure Command where
  /-- The program, as a path or as a name to search for. -/
  program : Path
  /-- Its arguments. -/
  arguments : List String := []
  /-- The variables set for it alone. -/
  environment : Environment := []
  /-- The directory it runs in, when that is not the current one. -/
  directory : Option Path := none
  deriving DecidableEq, Repr, Inhabited

namespace Command

/-- The form in which messages show a command. -/
def display (c : Command) : String :=
  Text.joinWith " " (c.program.text :: c.arguments)

/-- Sets a variable for the command alone. -/
def setVariable (c : Command) (key value : String) : Command :=
  { c with environment := c.environment.set key value }

end Command

/-- What a finished process leaves. -/
structure Output where
  /-- The exit status; none for a process that a signal ended. -/
  status : Option Int := some 0
  /-- What it wrote to the standard output. -/
  stdout : String := ""
  /-- What it wrote to the standard error. -/
  stderr : String := ""
  deriving DecidableEq, Repr, Inhabited

namespace Output

/-- Whether the process ended with status zero. -/
def success (o : Output) : Bool :=
  o.status == some 0

end Output

end CrossBuild
