import CrossBuild.Shell.Session

/-!
# Reading, writing and reporting

What a descriptor leads to is read from and written to here.  A command of
the shell's own collects what it writes until it is done; a report of a fault
goes out at once, with the name of the shell, the line, and the command.
-/
namespace CrossBuild.Shell

/-! ## 1. Streams -/

/-- How much a process may write for a reader before it is taken to have lost him. -/
def pipeLimit : Nat := 1048576

namespace Stream

/-- Bytes put into a file's data at a place. -/
def overwrite (data : ByteArray) (place : Nat) (written : ByteArray) : ByteArray :=
  let gap := ByteArray.mk (Array.replicate (place - data.size) 0)
  data.extract 0 place ++ gap ++ written ++ data.extract (place + written.size) data.size

end Stream

/-- The number of what a descriptor leads to. -/
def streamNumber? (descriptor : Nat) : ShellM (Option Nat) := do
  return (← process).descriptors.lookup descriptor

/-- Changes what a number stands for. -/
def setStream (i : Nat) (s : Stream) : ShellM Unit :=
  modifyWorld fun w => { w with streams := w.streams.setIfInBounds i s }

/-- Opens a new stream; gives its number. -/
def newStream (s : Stream) : ShellM Nat := do
  let i := (← get).world.streams.size
  modifyWorld fun w => { w with streams := w.streams.push s }
  return i

/-- Makes a descriptor lead to a stream. -/
def Process.attach (p : Process) (descriptor stream : Nat) : Process :=
  { p with descriptors := (descriptor, stream) :: p.descriptors.filter fun x => x.1 != descriptor }

/-- Closes a descriptor. -/
def Process.detach (p : Process) (descriptor : Nat) : Process :=
  { p with descriptors := p.descriptors.filter fun x => x.1 != descriptor }

/-- Writes bytes to a stream; false if it cannot be written to. -/
def writeStream (i : Nat) (data : ByteArray) : ShellM Bool := do
  match (← get).world.streams[i]? with
  | some (.sink old isBounded) =>
    if isBounded && pipeLimit < old.size + data.size then throw (.ended (.signalled 13))
    modifyWorld fun w => { w with
      streams := w.streams.modify i fun s =>
        match s with
        | .sink old isBounded => .sink (old ++ data) isBounded
        | s => s }
    return true
  | some (.file file place reads true appends) =>
    match (← files).lookup? file with
    | some (.file old executable) =>
      let place := if appends then old.size else place
      modifyWorld fun w => { w with
        files := w.files.put file (.file (Stream.overwrite old place data) executable) }
      setStream i (.file file (place + data.size) reads true appends)
      return true
    | _ => return true
  | some .null => return true
  | _ => return false

/-- Writes bytes to a descriptor; false if it cannot be written to. -/
def writeTo (descriptor : Nat) (data : ByteArray) : ShellM Bool := do
  match ← streamNumber? descriptor with
  | none => return false
  | some i => writeStream i data

/-- Reads all bytes that are left; nothing if the descriptor cannot be read. -/
def readAll (descriptor : Nat) : ShellM (Option ByteArray) := do
  match ← streamNumber? descriptor with
  | none => return none
  | some i =>
    match (← get).world.streams[i]? with
    | some (.source data place) =>
      setStream i (.source data data.size)
      return some (data.extract place data.size)
    | some (.file file place true writes appends) =>
      match (← files).lookup? file with
      | some (.file data _) =>
        setStream i (.file file (max place data.size) true writes appends)
        return some (data.extract place data.size)
      | _ => return some ByteArray.empty
    | some .null => return some ByteArray.empty
    | _ => return none

/-- Reads one byte; nothing at the end, or if the descriptor cannot be read. -/
def readByte (descriptor : Nat) : ShellM (Option UInt8) := do
  match ← streamNumber? descriptor with
  | none => return none
  | some i =>
    match (← get).world.streams[i]? with
    | some (.source data place) =>
      match data[place]? with
      | some b =>
        setStream i (.source data (place + 1))
        return some b
      | none => return none
    | some (.file file place true writes appends) =>
      match (← files).lookup? file with
      | some (.file data _) =>
        match data[place]? with
        | some b =>
          setStream i (.file file (place + 1) true writes appends)
          return some b
        | none => return none
      | _ => return none
    | _ => return none

/-! ## 2. Output of the shell's own commands -/

/-- Writes text with the output of the command. -/
def say (text : String) : ShellM Unit :=
  modifyProcess fun p => { p with buffer := p.buffer ++ Octets.toBytes text }

/-- Sends what the command has written; false if that fails. -/
def flush : ShellM Bool := do
  let data := (← process).buffer
  modifyProcess fun p => { p with buffer := ByteArray.empty }
  if data.isEmpty then return true else writeTo 1 data

/-- Writes text to the standard error. -/
def sayFault (text : String) : ShellM Unit := do
  let _ ← writeTo 2 (Octets.toBytes text)

/-- Reports a fault. -/
def complain (text : String) : ShellM Unit := do
  let p ← process
  let command := match p.command with
    | some name => name ++ ": "
    | none => ""
  sayFault (p.name ++ ": " ++ toString p.faultLine ++ ": " ++ command ++ text ++ "\n")

/-- Reports a fault and stops short. -/
def fail {α : Type} (text : String) : ShellM α := do
  setStatus 2
  complain text
  let _ ← flush
  throw .fault

end CrossBuild.Shell
