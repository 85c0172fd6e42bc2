import CrossBuild.Machine
import CrossBuild.Text.Quoted

/-!
# What a program prints

Two texts grow while a program runs: what it writes to the standard output
and what it writes to the standard error.  Events go to the latter, in the
order in which they are logged.
-/
namespace CrossBuild

namespace Event

/-- The width of the column of levels. -/
def levelWidth : Nat := 5

/-- A character as a line of the log shows it.  Those that a terminal could take for a
command are written by their number: the bell, the backspace, the form feed, the escape, the
delete, and the second set of controls. -/
def shownChar (c : Char) : List Char :=
  let n := c.toNat
  if n = 0x07 || n = 0x08 || n = 0x0C || n = 0x1B || n = 0x7F then
    ['\\', 'x'] ++ (if n < 16 then ['0'] else []) ++ Text.hexDigits n
  else if 0x80 ≤ n && n ≤ 0x9F then
    ['\\', 'u', '\x7b'] ++ Text.hexDigits n ++ ['\x7d']
  else [c]

/-- A text as a line of the log shows it. -/
def shownText (text : String) : String :=
  String.ofList (text.toList.flatMap shownChar)

/-- An event as a line, the level in a column of its own. -/
def line (e : Event) : String :=
  "".pushn ' ' (levelWidth - e.level.name.length) ++ e.level.name ++ " " ++ shownText e.text ++ "\n"

/-- Whether an event is shown: details only to those who want them. -/
def isShown (verbose : Bool) (e : Event) : Bool :=
  verbose || e.level ≠ .debug

end Event

/-- What a program has printed. -/
structure Terminal where
  /-- Whether details are shown. -/
  verbose : Bool := false
  /-- What it has written to the standard output. -/
  stdout : String := ""
  /-- What it has written to the standard error. -/
  stderr : String := ""
  /-- How many events of the machine are shown already. -/
  shown : Nat := 0
  deriving DecidableEq, Repr

/-- An operation that prints. -/
abbrev TerminalM := StateT Terminal MachineM

namespace Terminal

/-- Shows the events that were logged since events were last shown. -/
def showEvents : TerminalM Unit := do
  let events := (← getThe Machine).events
  modifyThe Terminal fun t =>
    let texts := ((events.drop t.shown).filter (Event.isShown t.verbose)).map Event.line
    { t with stderr := t.stderr ++ String.join texts, shown := events.length }

/-- Writes to the standard output. -/
def write (text : String) : TerminalM Unit :=
  modifyThe Terminal fun t => { t with stdout := t.stdout ++ text }

/-- Writes to the standard error, after the events so far. -/
def writeError (text : String) : TerminalM Unit := do
  showEvents
  modifyThe Terminal fun t => { t with stderr := t.stderr ++ text }

end Terminal

end CrossBuild
