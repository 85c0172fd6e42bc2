import CrossBuild.Machine
import CrossBuild.Report

/-!
# Invocations

A command that was run together with its outcome, and the two verdicts on
it: that it succeeded, and that it printed what was expected.
-/
namespace CrossBuild

/-- A command that was run, with its outcome. -/
structure Invocation where
  /-- The command line. -/
  command : String
  /-- The directory that the command ran in. -/
  directory : Path
  /-- The outcome. -/
  output : Output
  deriving DecidableEq, Repr, Inhabited

namespace Invocation

/-- A command and its outcome. -/
def ofOutput (c : Command) (output : Output) : Invocation :=
  { command := c.display, directory := c.directory.getD ⟨""⟩, output }

/-- Whether the command ended with status zero. -/
def success (i : Invocation) : Bool :=
  i.output.success

/-- The dump of what the command printed. -/
def report (i : Invocation) : String :=
  Report.notUpToDate i.output.stdout i.output.stderr

/-- The invocation, or the error that its status stands for. -/
def ensureSuccess (i : Invocation) : Except VerifyError Invocation :=
  if i.success then .ok i
  else .error (.commandFailed i.command i.output.status i.report)

/-- Logs the dump and fails as not up to date. -/
def rejectAsWork {α : Type} (i : Invocation) (format : Format) : Verify α := do
  log (.notUpToDate i.report)
  throw (.notUpToDate format i.command i.report)

/-- The invocation, if it printed exactly what was expected. -/
def expectStdout (i : Invocation) (format : Format) (expected : String) : Verify Invocation := do
  if i.output.stdout = expected then pure i
  else
    log (.unexpectedOutput expected i.output.stdout)
    i.rejectAsWork format

end Invocation

end CrossBuild
