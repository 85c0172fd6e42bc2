import CrossBuild.Shell.Stream

/-!
# Processes that run for others

A part of a script that runs in a process of its own changes nothing in the
shell that started it, except through files and streams and by signals.  When
a process ends, its shell does first what was asked for the end.
-/
namespace CrossBuild.Shell

/-! ## 1. Signals -/

/-- Lets a signal come to the process that runs. -/
def receive (signal : Nat) : ShellM Unit := do
  if signal = 0 then return
  match (← process).traps.lookup signal with
  | some action =>
    if action != "" then
      modifyProcess fun p => { p with arrived := p.arrived ++ [signal] }
  | none => if Signal.isDeadly signal then throw (.ended (.signalled signal))

/-- Lets the signals come that were sent to the process while others ran. -/
def receiveSent : ShellM Unit := do
  let number := (← process).number
  let sent := (← get).world.sent
  let mine := sent.filter fun x => x.1 == number
  if !mine.isEmpty then
    modifyWorld fun w => { w with sent := w.sent.filter fun x => x.1 != number }
    mine.forM fun x => receive x.2

/-! ## 2. Ends -/

/-- Ends the shell that runs: does what was asked for the end, and gives the ending. -/
def finish (perform : Perform) : ShellM Ending := do
  let status := (← process).status
  match (← process).traps.lookup 0 with
  | none => pure ()
  | some action =>
    modifyProcess fun p => { p with
      traps := p.traps.filter fun x => x.1 != 0
      skip := .nothing, trapStatus := some status, isLeaving := true }
    let last : ShellM Unit := do
      let _ ← perform (.text {} action)
      setStatus status
    ExceptT.mk fun s =>
      match last.run s with
      | (.error .fault, s) | (.error (.exit false), s) => (.ok (), s)
      | (.error (.exit true), s) =>
        (.ok (), { s with process.status := s.process.trapStatus.getD s.process.status })
      | (result, s) => (result, s)
  let _ ← flush
  return .exited ((← process).status % 256)

/-- Runs an operation as all that the process does, and gives the ending of the process. -/
def toItsEnd (perform : Perform) (body : ShellM Unit) : ShellM Ending :=
  ExceptT.mk fun s =>
    let (result, s) := body.run s
    let finishing : StateM Session (Except Stop Ending) :=
      match result with
      | .error (.ended ending) => return .ok ending
      | .error (.exit true) => do
        modify fun s => { s with
          process.status := s.process.trapStatus.getD s.process.status
          process.trapStatus := none }
        (finish perform).run
      | _ => do
        modify fun s => { s with process.trapStatus := none }
        (finish perform).run
    match finishing s with
    | (.error (.ended ending), s) => (.ok ending, s)
    | (.error _, s) => (.ok (.exited (s.process.status % 256)), s)
    | (.ok ending, s) => (.ok ending, s)

/-- Runs an operation as all that another process does. -/
def runAs (perform : Perform) (other : Process) (body : ShellM Unit) : ShellM Ending := do
  let mine ← process
  modifyProcess fun _ => other
  let ending ← toItsEnd perform body
  modifyProcess fun _ => mine
  return ending

/-! ## 3. Children -/

/-- A process split off another one. -/
def Process.child (p : Process) (number : Nat) : Process :=
  { p with
    number
    ancestors := p.number :: p.ancestors
    traps := p.traps.filter fun x => x.2 == ""
    readLine := p.ownLine
    arrived := []
    jobs := []
    buffer := ByteArray.empty }

/-- Gives the number of a new process. -/
def newNumber : ShellM Nat := do
  let n := (← get).world.nextNumber
  modifyWorld fun w => { w with nextNumber := n + 1 }
  return n

/-- Runs an operation in a process split off this one, after a change of the new process. -/
def runSplit (perform : Perform) (change : Process → Process) (body : ShellM Unit) :
    ShellM Ending := do
  let number ← newNumber
  runAs perform (change ((← process).child number)) body

/-- Finds the first place in the list of jobs that is free; that of a job that has ended and
was waited for is free, and the job is forgotten. -/
def freePlace : ShellM Nat := do
  let ended := (← get).world.ended
  let jobs := (← process).jobs
  let place := (jobs.findIdx? fun j =>
    j.all fun j => j.isWaited && (ended.lookup j.number).isSome).getD jobs.length
  modifyProcess fun p => { p with jobs := jobs.set place none }
  return place

/-- Runs an operation in a process split off this one, and waits for it.  It is a job as long
as it runs. -/
def runChild (perform : Perform) (change : Process → Process) (body : ShellM Unit) :
    ShellM Ending := do
  let _ ← freePlace
  let ending ← runSplit perform change body
  receiveSent
  return ending

/-- Waits for a process that has ended: reports a signal that ended it, and gives the status. -/
def statusOf (ending : Ending) : ShellM Nat := do
  match ending with
  | .exited status => return status
  | .signalled signal =>
    if !Signal.isSilent signal then sayFault (Signal.description signal ++ "\n")
    return 128 + signal

end CrossBuild.Shell
