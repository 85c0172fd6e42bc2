import CrossBuild.Shell.Builtin.Output
import CrossBuild.Shell.Field

/-!
# Reading lines

The command `read`: a line becomes fields, one for each name, and the last
name gets the rest.  A backslash joins lines and protects characters, unless
it is asked to be nothing special.
-/
namespace CrossBuild.Shell

/-- A line that is being read. -/
structure LineDraft where
  /-- What has been read, with the stretches that are split. -/
  expanded : Expanded := {}
  /-- Where the stretch begins that is read now. -/
  start : Nat := 0
  /-- Whether a backslash stands before the next character. -/
  isEscaped : Bool := false

namespace LineDraft

/-- Ends the stretch that is read now at the end of what has been read. -/
def endStretch (d : LineDraft) : LineDraft :=
  { d with expanded := d.expanded.record d.start false }

/-- Adds a character. -/
def push (d : LineDraft) (c : Char) : LineDraft :=
  { d with expanded := d.expanded.push (.plain c) }

/-- Begins a new stretch. -/
def begin (d : LineDraft) : LineDraft :=
  { d with start := d.expanded.size, isEscaped := false }

end LineDraft

/-- Reads the rest of a line; the second value says whether the line was ended. -/
def readLineFrom (isRaw : Bool) : Nat → LineDraft → ShellM (Expanded × Bool)
  | 0, d => return (d.endStretch.expanded, false)
  | n + 1, d => do
    match ← readByte 0 with
    | none => return (d.endStretch.expanded, false)
    | some b =>
      let c := Octets.ofByte b
      if b = 0 then readLineFrom isRaw n d
      else if d.isEscaped then
        if c == '\n' then readLineFrom isRaw n d.endStretch.begin
        else readLineFrom isRaw n (d.endStretch.push c).begin
      else if c == '\\' && !isRaw then readLineFrom isRaw n { d with isEscaped := true }
      else if c == '\n' then return (d.endStretch.expanded, true)
      else readLineFrom isRaw n (d.push c)

/-- Sets variables to fields; those that are left over become empty. -/
def setFields : List String → List (List Glyph) → ShellM Unit
  | [], _ => return
  | name :: names, [] => do
    setVariable name ""
    setFields names []
  | name :: names, field :: fields => do
    setVariable name (textOf field)
    setFields names fields

/-- The command `read`. -/
def readVariables (arguments : List String) : ShellM Nat := do
  let (options, names) ← readOptions "r" "p" arguments
  if names.isEmpty then fail "arg count"
  let isRaw := options.any fun x => x.1 == 'r'
  let (line, isEnded) ← readLineFrom isRaw repeatLimit {}
  setFields names (line.split (← process).separators (some names.length))
  return if isEnded then 0 else 1

end CrossBuild.Shell
