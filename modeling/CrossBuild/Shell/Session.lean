import CrossBuild.Command
import CrossBuild.Files.Changes
import CrossBuild.Shell.Image
import CrossBuild.Shell.Script
import CrossBuild.Shell.Signal
import CrossBuild.Text.Octets

/-!
# The state of running shells

A shell is a process: what belongs to it alone is a `Process`, what all
processes share is a `World`, and an operation of the shell that runs now is a
`ShellM`.  One process runs at a time; a command that is not waited for is
kept until somebody waits for it.

An operation may stop short, for one of the causes of `Stop`.
-/
namespace CrossBuild.Shell

/-! ## 1. Parts of the state -/

/-- How a process ended. -/
inductive Ending where
  /-- With a status. -/
  | exited (status : Nat)
  /-- By a signal. -/
  | signalled (signal : Nat)
  deriving DecidableEq

namespace Ending

/-- The status that a shell sees of a process that ended. -/
def seen : Ending → Nat
  | exited status => status
  | signalled signal => 128 + signal

/-- The status that the system reports, which is none after a signal. -/
def status? : Ending → Option Nat
  | exited status => some status
  | signalled _ => none

end Ending

/-- What an open descriptor leads to.  Several descriptors may lead to the same. -/
inductive Stream where
  /-- Somewhere that collects what is written; a bounded one has a reader that may stop
  reading. -/
  | sink (data : ByteArray) (isBounded : Bool)
  /-- Bytes of which those from `place` on are still to be read. -/
  | source (data : ByteArray) (place : Nat)
  /-- A file, and where in it the next byte is read or written. -/
  | file (file : Place) (place : Nat) (reads writes appends : Bool)
  /-- Nowhere. -/
  | null
  /-- A directory, which can be neither read nor written. -/
  | directory
  deriving Inhabited

/-- A variable. -/
structure Variable where
  /-- Its value; a variable without one is known by its marks only. -/
  value : Option String
  /-- Whether programs are told of it. -/
  isExported : Bool := false
  /-- Whether it keeps its value for good. -/
  isReadonly : Bool := false
  /-- Whether it stays known when it loses its value. -/
  isFixed : Bool := false
  deriving Inhabited

/-- A switch of the shell. -/
inductive ShellOption where
  | errexit | noglob | ignoreeof | interactive | monitor | noexec | stdin | xtrace | verbose
  | vi | emacs | noclobber | allexport | notify | nounset | privileged | nolog | debug
  deriving DecidableEq

namespace ShellOption

/-- All switches, in the order in which they are listed. -/
def all : List ShellOption :=
  [errexit, noglob, ignoreeof, interactive, monitor, noexec, stdin, xtrace, verbose, vi, emacs,
    noclobber, allexport, notify, nounset, privileged, nolog, debug]

/-- The name of a switch. -/
def name : ShellOption → String
  | errexit => "errexit"
  | noglob => "noglob"
  | ignoreeof => "ignoreeof"
  | interactive => "interactive"
  | monitor => "monitor"
  | noexec => "noexec"
  | stdin => "stdin"
  | xtrace => "xtrace"
  | verbose => "verbose"
  | vi => "vi"
  | emacs => "emacs"
  | noclobber => "noclobber"
  | allexport => "allexport"
  | notify => "notify"
  | nounset => "nounset"
  | privileged => "privileged"
  | nolog => "nolog"
  | debug => "debug"

/-- The letter of a switch. -/
def letter? : ShellOption → Option Char
  | errexit => some 'e'
  | noglob => some 'f'
  | ignoreeof => some 'I'
  | interactive => some 'i'
  | monitor => some 'm'
  | noexec => some 'n'
  | stdin => some 's'
  | xtrace => some 'x'
  | verbose => some 'v'
  | vi => some 'V'
  | emacs => some 'E'
  | noclobber => some 'C'
  | allexport => some 'a'
  | notify => some 'b'
  | nounset => some 'u'
  | privileged => some 'p'
  | nolog | debug => none

end ShellOption

/-- What is brought back when a function ends. -/
inductive Kept where
  /-- A variable, as it was before. -/
  | variable (name : String) (before : Option Variable)
  /-- The switches. -/
  | options (before : List ShellOption)

/-- A function. -/
structure Function where
  /-- The line of its definition. -/
  line : Nat
  /-- Its command. -/
  body : Node
  deriving Inhabited

/-- Whether commands are passed over, and up to where. -/
inductive Skip where
  /-- They are not. -/
  | nothing
  /-- Up to the end of so many loops. -/
  | loops (count : Nat)
  /-- Up to the next round, after the end of so many inner loops. -/
  | rounds (count : Nat)
  /-- Up to the end of the function or of the file, with a status of its own or without. -/
  | function (hasStatus : Bool)
  deriving DecidableEq

/-- A job in the list of a shell. -/
structure Listed where
  /-- The number of its process; later jobs have greater ones. -/
  number : Nat
  /-- The number of commands in its pipeline. -/
  size : Nat
  /-- Whether it has been waited for. -/
  isWaited : Bool := false

/-- Where a program was found last. -/
structure Located where
  /-- The number of the entry of the search path. -/
  entry : Nat
  /-- Whether the directory has changed since. -/
  isStale : Bool := false

/-- What belongs to one shell alone. -/
structure Process where
  /-- Its number. -/
  number : Nat
  /-- The numbers of the processes that it was started by, the last one first. -/
  ancestors : List Nat := []
  /-- The number that it gives as its own, which is that of the shell it was split off. -/
  rootNumber : Nat
  /-- The directory it is in. -/
  directory : Place
  /-- The name by which it knows that directory. -/
  directoryName : String
  /-- The variables, in the order of their names. -/
  bindings : List (String × Variable) := []
  /-- What is brought back at the end of functions, the innermost first. -/
  frames : List (List Kept) := []
  /-- The functions. -/
  functions : List (String × Function) := []
  /-- The aliases, in the order in which they came. -/
  aliases : List (String × String) := []
  /-- The arguments. -/
  arguments : List String := []
  /-- The name it was started by. -/
  name : String := "sh"
  /-- The switches that are on. -/
  options : List ShellOption := []
  /-- The status of the last command. -/
  status : Nat := 0
  /-- The status of the last command whose output was substituted in this one. -/
  substituted : Nat := 0
  /-- The open descriptors, and the numbers of what they lead to. -/
  descriptors : List (Nat × Nat) := []
  /-- What the command has written, and is not yet sent. -/
  buffer : ByteArray := ByteArray.empty
  /-- The line of the command, counted from the start of its function. -/
  line : Nat := 1
  /-- The line that faults are reported in. -/
  faultLine : Nat := 0
  /-- The line of the definition of the function that runs; zero outside functions. -/
  functionLine : Nat := 0
  /-- How many functions run, each called from the one before. -/
  callDepth : Nat := 0
  /-- The command that faults are reported for. -/
  command : Option String := none
  /-- Whether commands are passed over. -/
  skip : Skip := .nothing
  /-- The number of loops around. -/
  loops : Nat := 0
  /-- What is done at signals; signal zero is the end of the shell. -/
  traps : List (Nat × String) := []
  /-- The signals that have come and are not yet dealt with. -/
  arrived : List Nat := []
  /-- The status that counts as the last one while a signal is dealt with. -/
  trapStatus : Option Nat := none
  /-- Whether the action for the end of the shell runs. -/
  isLeaving : Bool := false
  /-- The jobs that it knows of, with gaps where one was forgotten; the first one is `%1`. -/
  jobs : List (Option Listed) := []
  /-- The process of the last job ever. -/
  lastJob : Option Nat := none
  /-- Where programs were found. -/
  located : List (String × Located) := []
  /-- The argument that the next option is looked for in, and how much of it is done. -/
  optionPlace : Nat × Option Nat := (1, none)
  /-- The permissions that new files do not get. -/
  fileMask : Nat := 18
  /-- The documents in the script. -/
  documents : Array Word := #[]
  /-- The line that the reader of the script has come to. -/
  readLine : Nat := 1
  /-- The line that the reader of the shell's own script has come to, if that is a file. -/
  ownLine : Nat := 1
  /-- Whether a command is being shown. -/
  isTracing : Bool := false
  deriving Inhabited

/-- How a command is run. -/
structure Mode where
  /-- Whether its failure is looked at, and so is no reason to leave. -/
  isTested : Bool := false
  /-- Whether nothing follows it in its process. -/
  isLast : Bool := false

/-- What a shell can be asked to do. -/
inductive Task where
  /-- To run a command. -/
  | node (mode : Mode) (command : Option Node)
  /-- To read and run a text. -/
  | text (mode : Mode) (script : String)
  /-- To read and run the text of a file, which may be shown as it is read; it may be the
  shell's own script. -/
  | file (isOwn : Bool) (script : String)
  /-- To be a program. -/
  | image (image : Image)

/-- A process that was started and not waited for. -/
structure Job where
  /-- Its number. -/
  number : Nat
  /-- Its state. -/
  process : Process
  /-- What it does. -/
  task : Task

/-- What all processes share. -/
structure World where
  /-- The files. -/
  files : FileTree
  /-- What descriptors lead to. -/
  streams : Array Stream := #[]
  /-- The number of the next process. -/
  nextNumber : Nat := 4243
  /-- The processes that are still to run. -/
  waiting : List Job := []
  /-- The processes that have ended. -/
  ended : List (Nat × Ending) := []
  /-- The signals sent to processes that do not run now. -/
  sent : List (Nat × Nat) := []
  /-- How many more commands may run. -/
  stepsLeft : Nat := 1000000

/-- A shell that runs. -/
structure Session where
  /-- What belongs to it alone. -/
  process : Process
  /-- What it shares. -/
  world : World

/-- Why an operation stops short. -/
inductive Stop where
  /-- A fault that was reported; it ends the shell unless somebody deals with it. -/
  | fault
  /-- The shell is to end; a status that it was asked to end with is kept as `trapStatus`. -/
  | exit (isAsked : Bool)
  /-- The process has ended. -/
  | ended (ending : Ending)

/-- An operation of a shell. -/
abbrev ShellM := ExceptT Stop (StateM Session)

/-- Whoever does tasks. -/
abbrev Perform := Task → ShellM Nat

/-! ## 2. Access -/

/-- The process that runs. -/
def process : ShellM Process := do
  return (← get).process

/-- Changes the process that runs. -/
def modifyProcess (f : Process → Process) : ShellM Unit :=
  modify fun s => { s with process := f s.process }

/-- Changes what is shared. -/
def modifyWorld (f : World → World) : ShellM Unit :=
  modify fun s => { s with world := f s.world }

/-- The files. -/
def files : ShellM FileTree := do
  return (← get).world.files

/-- Sets the status of the last command. -/
def setStatus (n : Nat) : ShellM Unit :=
  modifyProcess fun p => { p with status := n }

namespace Process

/-- Whether a switch is on. -/
def has (p : Process) (o : ShellOption) : Bool :=
  p.options.contains o

/-- Turns a switch on or off. -/
def setOption (p : Process) (o : ShellOption) (isOn : Bool) : Process :=
  let others := p.options.filter (· != o)
  { p with options := if isOn then o :: others else others }

/-- The value of a variable. -/
def value? (p : Process) (name : String) : Option String :=
  (p.bindings.lookup name).bind (·.value)

/-- The characters that separate fields. -/
def separators (p : Process) : String :=
  match p.bindings.lookup "IFS" with
  | some v => v.value.getD " \t\n"
  | none => " \t\n"

/-- The path on which programs are searched. -/
def searchPath (p : Process) : String :=
  (p.value? "PATH").getD ""

/-- What a program is told of the variables. -/
def environment (p : Process) : List (String × String) :=
  p.bindings.filterMap fun (name, v) => if v.isExported then v.value.map (name, ·) else none

/-- Whether anything is done at signals. -/
def hasTraps (p : Process) : Bool :=
  p.traps.any fun x => x.2 != ""

end Process

/-- Does an operation, and says whether it stopped short by a fault that was reported. -/
def catchFault {α : Type} (operation : ShellM α) : ShellM (Option α) :=
  ExceptT.mk fun s =>
    match operation.run s with
    | (.ok a, s) => (.ok (some a), s)
    | (.error .fault, s) => (.ok none, s)
    | (.error stop, s) => (.error stop, s)

/-- Does an operation and, whether or not it stopped short, another one after it. -/
def afterwards {α : Type} (operation : ShellM α) (last : ShellM Unit) : ShellM α :=
  ExceptT.mk fun s =>
    let (result, s) := operation.run s
    match last.run s with
    | (.ok _, s) => (result, s)
    | (.error stop, s) => (.error stop, s)

/-- Ends a process that goes deeper than any stack does. -/
def exhausted {α : Type} : ShellM α :=
  throw (.ended (.signalled 11))

/-- Repeats an operation as long as it says so, up to a number of times. -/
def repeatWhile (operation : ShellM Bool) : Nat → ShellM Unit
  | 0 => return
  | n + 1 => do if ← operation then repeatWhile operation n

/-- How often anything is repeated at most. -/
def repeatLimit : Nat := 1000000000000

end CrossBuild.Shell
