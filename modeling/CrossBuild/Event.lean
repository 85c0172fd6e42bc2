import CrossBuild.Format
import CrossBuild.Text.Quoted
import CrossBuild.Tool.Resolution
import CrossBuild.VisualStudio.Release

/-!
# What is logged

The events that operations report on the way, with their level and their
text.
-/
namespace CrossBuild

/-- How important an event is. -/
inductive Level where
  /-- A verification failed. -/
  | error
  /-- Something was not as it was asked for. -/
  | warn
  /-- Something worth knowing happened. -/
  | info
  /-- Detail for whoever looks for a fault. -/
  | debug
  deriving DecidableEq, Repr

namespace Level

/-- The name of a level. -/
def name : Level → String
  | error => "ERROR"
  | warn => "WARN"
  | info => "INFO"
  | debug => "DEBUG"

end Level

/-- An event worth logging. -/
inductive Event where
  /-- A build did work that it should not have; the text is its dump. -/
  | notUpToDate (report : String)
  /-- A global configuration file is ignored. -/
  | configIgnored (path : Path) (reason : String)
  /-- No candidate for a tool was found. -/
  | noCandidate (candidates : List String) (fallback : Path)
  /-- A release was asked for that is not installed. -/
  | releaseMissing (version : String) (expected : Path)
  /-- A scenario does not apply to a format. -/
  | skipping (format : Format)
  /-- A build had nothing to do. -/
  | upToDate (command : String)
  /-- A command is about to run. -/
  | running (command : String)
  /-- A command is about to run in a directory. -/
  | runningIn (directory : Path) (command : String)
  /-- A library search path is set for a program. -/
  | librarySearch (name value : String)
  /-- There is no top-level makefile. -/
  | noMakefile (path : Path)
  /-- A build printed something else than was expected. -/
  | unexpectedOutput (expected actual : String)
  /-- A solution build counted another number of projects as up to date. -/
  | projectCount (count : Option Nat) (expected : Nat)
  /-- The release that was asked for was found. -/
  | usingPinned (version : String) (path : Path)
  /-- The driver on the search path is used. -/
  | usingSearched (path : Path) (generation : VisualStudio.Generation)
  /-- A release was found at a well-known place. -/
  | probedRelease (version : String) (path : Path)
  /-- A backend was set up. -/
  | selected (format : Format) (tool : String) (resolution : ToolResolution)
  /-- A backend could not be set up. -/
  | unavailable (format : Format) (reason : String)
  /-- A scenario has its working directory. -/
  | workingIn (directory : Path)
  /-- A fixture was staged. -/
  | staged (count : Nat) (source target : Path)
  /-- A command ended with a status other than zero. -/
  | exited (command : String) (status : Option Int)
  deriving DecidableEq, Repr

namespace Event

/-- The level of an event. -/
def level : Event → Level
  | notUpToDate _ => .error
  | configIgnored _ _ | noCandidate _ _ | releaseMissing _ _ => .warn
  | skipping _ | upToDate _ => .info
  | _ => .debug

/-- An optional number, as debugging messages show it. -/
def optional (n : Option String) : String :=
  match n with
  | some n => "Some(" ++ n ++ ")"
  | none => "None"

/-- The text of an event. -/
def text : Event → String
  | notUpToDate report => Text.trimEnd report
  | configIgnored path reason => "Failed to load config from " ++ path.text ++ ": " ++ reason
  | noCandidate candidates fallback =>
    "none of [" ++ Text.joinWith ", " candidates ++
      "] found on the search path; falling back to `" ++ fallback.text ++ "`"
  | releaseMissing version expected =>
    "GYP_MSVS_VERSION specifies \"" ++ version ++ "\" but corresponding \"" ++ expected.text ++
      "\" was not found"
  | skipping format => "Invalid test for " ++ Text.quoted format.name ++ " format; skipping test."
  | upToDate command => "Up to date: " ++ command
  | running command => "Running: " ++ command
  | runningIn directory command => "Running in " ++ directory.text ++ ": " ++ command
  | librarySearch name value => name ++ "=" ++ value
  | noMakefile path => "no Makefile in " ++ path.text
  | unexpectedOutput expected actual =>
    "expected stdout " ++ Text.quoted expected ++ ", got " ++ Text.quoted actual
  | projectCount count expected =>
    "up-to-date count " ++ optional (count.map toString) ++ ", expected " ++ toString expected
  | usingPinned version path => "Using pinned Visual Studio " ++ version ++ " at " ++ path.text
  | usingSearched path generation =>
    "Using " ++ path.text ++ " from search path (" ++ generation.label ++ " generation)"
  | probedRelease version path => "Found Visual Studio " ++ version ++ " at " ++ path.text
  | selected format tool resolution =>
    "Selected " ++ format.name ++ " backend (" ++ tool ++ ": " ++ resolution.label ++ ")"
  | unavailable format reason => format.name ++ " backend unavailable: " ++ reason
  | workingIn directory => "Working directory: " ++ directory.text
  | staged count source target =>
    "Staged " ++ toString count ++ " file(s) from " ++ source.text ++ " into " ++ target.text
  | exited command status =>
    "`" ++ command ++ "` exited with " ++ optional (status.map toString)

end Event

end CrossBuild
