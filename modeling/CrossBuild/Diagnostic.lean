import CrossBuild.Path
import CrossBuild.Text.Search

/-!
# Diagnostics

A message for the user: what went wrong, where, what the tool said, and what
to try next.
-/
namespace CrossBuild

/-- How grave a diagnostic is. -/
inductive Severity where
  /-- Something failed. -/
  | error
  /-- Nothing failed, but the user should know. -/
  | note
  deriving DecidableEq, Repr

namespace Severity

/-- The word that a diagnostic begins with. -/
def word : Severity → String
  | error => "error"
  | note => "note"

/-- The terminal's code for the colour of that word. -/
def colorCode : Severity → String
  | error => "\x1b[1;31m"
  | note => "\x1b[1;36m"

/-- The word, in its colour if colours are wanted. -/
def render (s : Severity) (color : Bool) : String :=
  if color then s.colorCode ++ s.word ++ "\x1b[0m" else s.word

end Severity

/-- A message for the user. -/
structure Diagnostic where
  /-- How grave it is. -/
  severity : Severity := .error
  /-- What happened. -/
  message : String
  /-- The file it is about. -/
  location : Option Path := none
  /-- Facts that help to understand it, one line each. -/
  context : List String := []
  /-- Captured output, shown as it is. -/
  detail : Option String := none
  /-- What to try next, one line each. -/
  suggestions : List String := []
  deriving DecidableEq, Repr

namespace Diagnostic

/-- A line of a diagnostic, with its line end. -/
def line (start text : String) : String :=
  start ++ text ++ "\n"

/-- All lines of a list, with the same start. -/
def lines (start : String) (texts : List String) : String :=
  String.join (texts.map (line start))

/-- The captured output after a blank line, ending in a line end. -/
def detailText : Option String → String
  | none => ""
  | some text => "\n" ++ text ++ (if Text.endsWith text "\n" then "" else "\n")

/-- The suggestions after a blank line, if there are any. -/
def suggestionText (suggestions : List String) : String :=
  if suggestions.isEmpty then "" else "\n" ++ lines "" suggestions

/-- The text of a diagnostic. -/
def format (d : Diagnostic) (color : Bool) : String :=
  line (d.severity.render color ++ ": ") d.message ++
    lines "  --> " (d.location.toList.map Path.text) ++
    lines "  -> " d.context ++
    detailText d.detail ++
    suggestionText d.suggestions

/-- What to try when no format is selected. -/
def noFormatHelp : String :=
  "help: Pass `--format <name>` or set TESTGYP_FORMAT"

/-- What to try when a build tool is missing. -/
def toolHelp : String :=
  "help: Install the tool, add it to PATH, or set its path under [tools] in .gyptest/config.toml"

/-- What to try when Visual Studio is missing. -/
def devenvHelp : String :=
  "help: Set GYP_MSVS_VERSION to an installed version, or add devenv.com to PATH"

/-- What to try when a build did work that it should not have. -/
def notUpToDateHelp : String :=
  "help: Re-run with --verbose to see the exact command line that was invoked"

end Diagnostic

end CrossBuild
