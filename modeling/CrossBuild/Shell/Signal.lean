/-!
# Signals

The signals that one process may send another: numbers, names, and what
becomes of a process that does not expect them.
-/
namespace CrossBuild.Shell

/-- What a signal does to a process that has made no arrangement for it. -/
inductive SignalEffect where
  /-- The process ends. -/
  | ends
  /-- Nothing. -/
  | none
  deriving DecidableEq

/-- A signal: its number, its name, the words for a process that it ended, and
its effect. -/
structure SignalEntry where
  /-- The number. -/
  number : Nat
  /-- The name, without `SIG`. -/
  name : String
  /-- The words for a process that the signal ended. -/
  description : String
  /-- The effect on a process that has made no arrangement. -/
  effect : SignalEffect := .ends

/-- The signals that have names. -/
def signalTable : List SignalEntry :=
  [⟨1, "HUP", "Hangup", .ends⟩, ⟨2, "INT", "Interrupt", .ends⟩, ⟨3, "QUIT", "Quit", .ends⟩,
    ⟨4, "ILL", "Illegal instruction", .ends⟩, ⟨5, "TRAP", "Trace/breakpoint trap", .ends⟩,
    ⟨6, "ABRT", "Aborted", .ends⟩, ⟨7, "BUS", "Bus error", .ends⟩,
    ⟨8, "FPE", "Floating point exception", .ends⟩, ⟨9, "KILL", "Killed", .ends⟩,
    ⟨10, "USR1", "User defined signal 1", .ends⟩, ⟨11, "SEGV", "Segmentation fault", .ends⟩,
    ⟨12, "USR2", "User defined signal 2", .ends⟩, ⟨13, "PIPE", "Broken pipe", .ends⟩,
    ⟨14, "ALRM", "Alarm clock", .ends⟩, ⟨15, "TERM", "Terminated", .ends⟩,
    ⟨16, "16", "Stack fault", .ends⟩, ⟨17, "CHLD", "Child exited", .none⟩,
    ⟨18, "CONT", "Continued", .none⟩, ⟨19, "STOP", "Stopped (signal)", .none⟩,
    ⟨20, "TSTP", "Stopped", .none⟩, ⟨21, "TTIN", "Stopped (tty input)", .none⟩,
    ⟨22, "TTOU", "Stopped (tty output)", .none⟩, ⟨23, "URG", "Urgent I/O condition", .none⟩,
    ⟨24, "XCPU", "CPU time limit exceeded", .ends⟩,
    ⟨25, "XFSZ", "File size limit exceeded", .ends⟩,
    ⟨26, "VTALRM", "Virtual timer expired", .ends⟩,
    ⟨27, "PROF", "Profiling timer expired", .ends⟩, ⟨28, "WINCH", "Window changed", .none⟩,
    ⟨29, "IO", "I/O possible", .ends⟩, ⟨30, "PWR", "Power failure", .ends⟩,
    ⟨31, "SYS", "Bad system call", .ends⟩]

namespace Signal

/-- One more than the greatest number of a signal. -/
def count : Nat := 65

/-- The first signal of those that have no fixed meaning, and the last one. -/
def realTime : Nat × Nat := (34, 64)

/-- The name of a signal, which is its number where it has none.  The end of a shell
counts as signal zero. -/
def name (n : Nat) : String :=
  if n = 0 then "EXIT"
  else
    match signalTable.find? fun e => e.number = n with
    | some e => e.name
    | none =>
      if n = realTime.1 then "RTMIN"
      else if n = realTime.2 then "RTMAX"
      else if realTime.1 < n && n ≤ 49 then "RTMIN+" ++ toString (n - realTime.1)
      else if 49 < n && n < realTime.2 then "RTMAX-" ++ toString (realTime.2 - n)
      else toString n

/-- The signal of a name, in capitals or not. -/
def ofName? (s : String) : Option Nat :=
  (List.range count).find? fun n => name n == s.toUpper

/-- The words for a process that a signal ended. -/
def description (n : Nat) : String :=
  match signalTable.find? fun e => e.number = n with
  | some e => e.description
  | none =>
    if realTime.1 ≤ n && n ≤ realTime.2 then "Real-time signal " ++ toString (n - realTime.1)
    else "Unknown signal " ++ toString n

/-- Whether a signal ends a process that has made no arrangement for it. -/
def isDeadly (n : Nat) : Bool :=
  match signalTable.find? fun e => e.number = n with
  | some e => e.effect == .ends
  | none => true

/-- Whether the end of a child by a signal goes without saying. -/
def isSilent (n : Nat) : Bool :=
  n == 2 || n == 13

end Signal

end CrossBuild.Shell
