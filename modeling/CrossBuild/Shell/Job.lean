import CrossBuild.Shell.Child

/-!
# Jobs

A job is a command that is started and not waited for.  It is kept, and runs
when somebody waits for it or for what it writes, or when its shell ends.  The
shell has a list of its jobs, in which they have places; a job that has ended
stays in the list until its place is needed.
-/
namespace CrossBuild.Shell

/-! ## 1. Starting and running -/

/-- Starts a pipeline of so many commands as a job. -/
def startJob (size : Nat) (change : Process → Process) (task : Task) : ShellM Unit := do
  let place ← freePlace
  let number ← newNumber
  let p := change ((← process).child number)
  modifyWorld fun w => { w with waiting := w.waiting ++ [⟨number, p, task⟩] }
  modifyProcess fun p => { p with
    jobs := p.jobs.take place ++ some { number, size } :: p.jobs.drop (place + 1)
    lastJob := some number }

/-- Runs the first process that is kept and has a property; false if there is none. -/
def runFirst (perform : Perform) (p : Job → Bool) : ShellM Bool := do
  match (← get).world.waiting.find? p with
  | none => return false
  | some j =>
    modifyWorld fun w => { w with waiting := w.waiting.filter fun k => k.number != j.number }
    let ending ← runAs perform j.process do
      receiveSent
      let _ ← perform j.task
    modifyWorld fun w => { w with ended := (j.number, ending) :: w.ended }
    receiveSent
    return true

/-- Runs the processes that are kept and were started since some number was the next. -/
def runWaiting (perform : Perform) (since : Nat) : ShellM Unit :=
  repeatWhile (runFirst perform fun j => since ≤ j.number) repeatLimit

/-- Runs a process that was not waited for, and gives its ending. -/
def endingOf (perform : Perform) (number : Nat) : ShellM (Option Ending) := do
  let _ ← runFirst perform fun j => j.number == number
  return (← get).world.ended.lookup number

/-! ## 2. The list -/

namespace Process

/-- The jobs with the numbers of their places, the last one started first. -/
def recentJobs (p : Process) : List (Nat × Listed) :=
  let placed := (p.jobs.zipIdx 1).filterMap fun (j, i) => j.map (i, ·)
  placed.mergeSort fun x y => decide (y.2.number ≤ x.2.number)

/-- The job at a place. -/
def jobAt? (p : Process) (place : Nat) : Option Listed :=
  if place = 0 then none else (p.jobs[place - 1]?).join

/-- Changes or forgets the jobs that have a property. -/
def changeJobs (p : Process) (chosen : Listed → Bool) (f : Listed → Option Listed) : Process :=
  { p with jobs := p.jobs.map fun j => j.bind fun j => if chosen j then f j else some j }

end Process

/-- The place of the job that a word such as `%1` names, and the job. -/
def jobOf (word : String) : ShellM (Nat × Listed) := do
  let p ← process
  let refuse : ShellM (Nat × Listed) := fail ("No such job: " ++ word)
  match word.toList with
  | ['%'] | ['%', '%'] | ['%', '+'] =>
    match p.recentJobs with
    | j :: _ => return j
    | [] => fail "No current job"
  | ['%', '-'] =>
    match p.recentJobs with
    | _ :: j :: _ => return j
    | _ => fail "No previous job"
  | '%' :: digits =>
    match (String.ofList digits).toNat? with
    | some place =>
      match p.jobAt? place with
      | some j => return (place, j)
      | none => refuse
    | none => refuse
  | _ => refuse

/-! ## 3. Waiting -/

/-- Waits for a process by its number; nothing if the shell has no such job. -/
def waitForNumber (perform : Perform) (number : Nat) : ShellM (Option Nat) := do
  let isIt (j : Listed) : Bool := j.number == number
  if !(← process).jobs.any (·.any isIt) then return none
  let isNew := (← get).world.waiting.any fun j => j.number == number
  match ← endingOf perform number with
  | none => return none
  | some ending =>
    modifyProcess fun p => p.changeJobs isIt fun j => some { j with isWaited := true }
    if isNew then return some (← statusOf ending) else return some ending.seen

/-- Waits for all jobs. -/
def waitForEach (perform : Perform) : ShellM Unit := do
  (← process).jobs.reduceOption.forM fun j => do
    let _ ← endingOf perform j.number
  modifyProcess fun p => p.changeJobs (fun _ => true) fun j => some { j with isWaited := true }

/-! ## 4. Showing -/

/-- The words for the state of a job. -/
def stateWords : Option Ending → String
  | none => "Running"
  | some (.exited 0) => "Done"
  | some (.exited n) => "Done(" ++ toString n ++ ")"
  | some (.signalled n) => Signal.description n

/-- How a job is shown. -/
inductive JobView where
  /-- By its place and its state. -/
  | state
  /-- With its number as well. -/
  | withNumber
  /-- By its number alone. -/
  | number

/-- Shows a job, and forgets it if it has ended. -/
def showJob (view : JobView) (place : Nat) (j : Listed) : ShellM Unit := do
  let ended := (← get).world.ended.lookup j.number
  let sign :=
    match (← process).recentJobs.findIdx? fun x => x.1 == place with
    | some 0 => "+"
    | some 1 => "-"
    | _ => " "
  let line (number : String) : ShellM Unit := do
    let text := "[" ++ toString place ++ "] " ++ sign ++ " " ++ number ++ stateWords ended
    let gap := String.ofList (List.replicate (33 - text.length) ' ')
    say (text ++ gap ++ String.join (List.replicate (j.size - 1) " | ") ++ "\n")
    if ended.isSome then modifyProcess fun p => p.changeJobs (·.number == j.number) fun _ => none
  match view with
  | .number => say (toString j.number ++ "\n")
  | .withNumber => line (toString j.number ++ " ")
  | .state => line ""

end CrossBuild.Shell
