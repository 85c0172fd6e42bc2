import CrossBuild.Diagnostic
import CrossBuild.Failure
import CrossBuild.Format

/-!
# Errors of a verification

Why a scenario could not be set up or why its build did not pass, with the
message, the help and the exit status that each error stands for.
-/
namespace CrossBuild

/-- What is wrong with the text of a configuration file. -/
inductive ConfigFault where
  /-- The text is not in the form of such files. -/
  | malformed
  /-- A value has the wrong type. -/
  | wrongType (found expected : String)
  /-- Any other fault, in words. -/
  | stated (text : String)
  deriving DecidableEq, Repr

namespace ConfigFault

/-- The words for a fault. -/
def message : ConfigFault → String
  | malformed => "malformed TOML"
  | wrongType found expected => "invalid type: " ++ found ++ ", expected " ++ expected
  | stated text => text

end ConfigFault

/-- What an assertion on an artifact found. -/
inductive AssertionFault where
  /-- A file that should exist does not. -/
  | missing (path : Path)
  /-- A file that should not exist does. -/
  | unexpected (path : Path)
  /-- A file has other contents than it should. -/
  | differs (path : Path)
  /-- A file has the contents that it should not have. -/
  | agrees (path : Path)
  /-- Any other finding, in words. -/
  | stated (text : String)
  deriving DecidableEq, Repr

namespace AssertionFault

/-- The words for a finding. -/
def message : AssertionFault → String
  | missing path => "missing file: " ++ path.text
  | unexpected path => "unexpected file: " ++ path.text
  | differs path => "contents of " ++ path.text ++ " do not match"
  | agrees path => "contents of " ++ path.text ++ " unexpectedly match"
  | stated text => text

end AssertionFault

/-- Why a scenario could not be set up, or why a build did not pass. -/
inductive VerifyError where
  /-- A text that should name a format names none. -/
  | unknownFormat (name : String)
  /-- No format is selected. -/
  | noFormat
  /-- The scenario does not apply to the selected format. -/
  | skipped (format : Format)
  /-- The build tool of a format is missing. -/
  | toolNotFound (format : Format) (tool : String) (searched : List Path)
  /-- The format has no such operation. -/
  | unsupported (format : Format) (operation : String)
  /-- A build ended with a status other than zero. -/
  | commandFailed (command : String) (status : Option Int) (report : String)
  /-- A build that should have had nothing to do did work. -/
  | notUpToDate (format : Format) (command report : String)
  /-- An artifact is not as it should be. -/
  | assertionFailed (fault : AssertionFault)
  /-- A configuration file has a fault. -/
  | config (path : Path) (fault : ConfigFault)
  /-- An operation of the system failed. -/
  | io (cause : FileError)
  /-- An operation failed, with a chain of causes. -/
  | other (failure : Failure)
  deriving DecidableEq, Repr

namespace VerifyError

/-- The words for an exit status. -/
def statusText : Option Int → String
  | some code => toString code
  | none => "(terminated by signal)"

/-- The message of an error, in one line where its parts are. -/
def message : VerifyError → String
  | unknownFormat name => "unknown format `" ++ name ++ "`"
  | noFormat => "no format selected"
  | skipped format => "invalid test for `" ++ format.name ++ "` format; skipping test"
  | toolNotFound format tool _ => "could not find " ++ tool ++ " for the `" ++ format.name ++ "` format"
  | unsupported format operation =>
    "the `" ++ format.name ++ "` format does not implement `" ++ operation ++ "`"
  | commandFailed command status _ =>
    "`" ++ command ++ "` failed with exit status " ++ statusText status
  | notUpToDate _ _ _ => "build is not up-to-date"
  | assertionFailed fault => fault.message
  | config path fault => "invalid configuration in " ++ path.text ++ ": " ++ fault.message
  | io cause => cause.message
  | other failure => failure.summary

/-- The code under which an error is listed. -/
def code? : VerifyError → Option String
  | unknownFormat _ => some "gyptest::format::unknown"
  | noFormat => some "gyptest::format::missing"
  | skipped _ => some "gyptest::format::skipped"
  | toolNotFound _ _ _ => some "gyptest::tool::not_found"
  | unsupported _ _ => some "gyptest::backend::unsupported"
  | commandFailed _ _ _ => some "gyptest::build::failed"
  | notUpToDate _ _ _ => some "gyptest::build::not_up_to_date"
  | assertionFailed _ => some "gyptest::assert::failed"
  | config _ _ => some "gyptest::config::invalid"
  | io _ | other _ => none

/-- The help that belongs to an error's code. -/
def help? : VerifyError → Option String
  | unknownFormat _ => some "valid formats: gypd, make, msvs, scons, xcode"
  | _ => none

/-- Whether the scenario was skipped rather than failed. -/
def isSkip : VerifyError → Bool
  | skipped _ => true
  | _ => false

/-- Whether a build did work that it should not have. -/
def isNotUpToDate : VerifyError → Bool
  | notUpToDate _ _ _ => true
  | _ => false

/-- The exit status of a program that ends with this error. -/
def exitStatus (e : VerifyError) : Nat :=
  if e.isSkip then 2 else 1

/-- The diagnostic for the user. -/
def diagnostic (e : VerifyError) : Diagnostic :=
  match e with
  | noFormat => { message := e.message, suggestions := [Diagnostic.noFormatHelp] }
  | skipped _ => { message := e.message, severity := .note }
  | toolNotFound format _ searched =>
    { message := e.message
      context := searched.map fun path => "looked for " ++ path.text
      suggestions := [if format = .msvs then Diagnostic.devenvHelp else Diagnostic.toolHelp] }
  | commandFailed _ _ report => { message := e.message, detail := some report }
  | notUpToDate format command report =>
    { message := e.message
      context := ["format: " ++ format.name, "command: " ++ command]
      detail := some report
      suggestions := [Diagnostic.notUpToDateHelp] }
  | config path _ => { message := e.message, location := some path }
  | other failure => { message := failure.full }
  | _ => { message := e.message }

end VerifyError

end CrossBuild
