import CrossBuild.Shell.Builtin.Output
import CrossBuild.Shell.Job

/-!
# Going on, waiting and ending

The commands that end loops, functions and the shell, those that deal with
signals, and those that deal with processes that were not waited for.
-/
namespace CrossBuild.Shell

/-! ## 1. Loops, functions and the shell -/

/-- The command `break`, or `continue` if another round is begun. -/
def leaveLoops (beginsRound : Bool) (arguments : List String) : ShellM Nat := do
  let count ← match arguments.head? with
    | none => pure 1
    | some word =>
      let n ← numberOf word
      if n = 0 then fail ("Illegal number: " ++ word)
      pure n
  let count := min count (← process).loops
  if 0 < count then
    modifyProcess fun p => { p with skip := if beginsRound then .rounds count else .loops count }
  return 0

/-- The command `return`. -/
def leaveFunction (arguments : List String) : ShellM Nat := do
  match arguments.head? with
  | some word =>
    let n ← numberOf word
    modifyProcess fun p => { p with skip := .function true }
    return n
  | none =>
    modifyProcess fun p => { p with skip := .function false }
    return (← process).status

/-- The command `exit`. -/
def leaveShell (arguments : List String) : ShellM Nat := do
  if let some word := arguments.head? then
    let n ← numberOf word
    modifyProcess fun p => { p with trapStatus := some n }
  throw (.exit true)

/-! ## 2. Signals -/

/-- The signal that a number is. -/
def numberedSignal? (word : String) : Option Nat :=
  if word != "" && word.toList.all Char.isDigit then word.toNat?.filter (· < Signal.count) else none

/-- The signal that a word names; the end of a shell counts as one if `hasEnd`. -/
def signalOf? (hasEnd : Bool) (word : String) : Option Nat :=
  numberedSignal? word <|> (Signal.ofName? word).filter fun n => hasEnd || n != 0

/-- Sets what is done at signals; without an action, the usual happens. -/
def setTraps (action : Option String) : List String → ShellM Nat
  | [] => return 0
  | word :: rest => do
    match signalOf? true word with
    | none =>
      sayFault ("trap: " ++ word ++ ": bad trap\n")
      return 1
    | some n =>
      modifyProcess fun p =>
        let others := p.traps.filter fun x => x.1 != n
        { p with traps := (action.map (n, ·)).toList ++ others }
      setTraps action rest

/-- The command `trap`. -/
def setAction (arguments : List String) : ShellM Nat := do
  match ← withoutOptions arguments with
  | [] =>
    let traps := (← process).traps
    (List.range Signal.count).forM fun n =>
      match traps.lookup n with
      | some action => say ("trap -- " ++ quoted action ++ " " ++ Signal.name n ++ "\n")
      | none => pure ()
    return 0
  | first :: rest =>
    if rest.isEmpty || (numberedSignal? first).isSome then setTraps none (first :: rest)
    else setTraps (if first = "-" then none else some first) rest

/-- Sends a signal to a process; false if there is none of the number. -/
def sendSignal (signal number : Nat) : ShellM Bool := do
  let p ← process
  let w := (← get).world
  if number = p.number then
    receive signal
    return true
  else if p.ancestors.contains number || w.waiting.any fun j => j.number == number then
    modifyWorld fun w => { w with sent := w.sent ++ [(number, signal)] }
    return true
  else return false

/-- How `kill` is used. -/
def killUsage : String :=
  "Usage: kill [-s sigspec | -signum | -sigspec] [pid | job]... or\nkill -l [exitstatus]"

/-- Sends a signal to the processes that words name. -/
def sendToAll (signal : Nat) : (status : Nat) → List String → ShellM Nat
  | status, [] => return status
  | status, word :: rest => do
    let isSent ← match word.toList with
      | '%' :: _ => do
        let _ ← jobOf word
        pure false
      | '-' :: digits => do
        let _ ← numberOf (String.ofList digits)
        pure false
      | _ => do sendSignal signal (← numberOf word)
    if isSent then sendToAll signal status rest
    else
      complain "No such process\n"
      sendToAll signal 1 rest

/-- Names signals, or the one that a status tells of. -/
def nameSignals (arguments : List String) : ShellM Nat := do
  match arguments.head? with
  | none =>
    say "0\n"
    (List.range (Signal.count - 1)).forM fun n => say (Signal.name (n + 1) ++ "\n")
    return 0
  | some word =>
    let status ← numberOf word
    let n := if 128 < status then status - 128 else status
    if 0 < n && n < Signal.count then
      say (Signal.name n ++ "\n")
      return 0
    else fail ("invalid signal number or exit status: " ++ word)

/-- The command `kill`. -/
def killProcesses (arguments : List String) : ShellM Nat := do
  let send (signal : Nat) (rest : List String) : ShellM Nat :=
    if rest.isEmpty then fail killUsage else sendToAll signal 0 rest
  match arguments with
  | [] => fail killUsage
  | first :: rest =>
    match first.toList with
    | '-' :: name =>
      match signalOf? false (String.ofList name) with
      | some signal => send signal rest
      | none =>
        let (options, rest) ← readOptions "l" "s" arguments
        let signals ← (options.filter fun x => x.1 == 's').mapM fun x => do
          match signalOf? false x.2 with
          | some signal => pure signal
          | none => fail ("invalid signal number or name: " ++ x.2)
        if options.any fun x => x.1 == 'l' then
          if signals.isEmpty then nameSignals rest else fail killUsage
        else send (signals.getLast?.getD 15) rest
    | _ => send 15 arguments

/-! ## 3. Jobs -/

/-- Waits for the processes that words name; the status of the last one. -/
def waitForAll (perform : Perform) : (status : Nat) → List String → ShellM Nat
  | status, [] => return status
  | status, word :: rest => do
    let number ← if word.toList.head? == some '%' then (·.2.number) <$> jobOf word else numberOf word
    waitForAll perform ((← waitForNumber perform number).getD status) rest

/-- The command `wait`. -/
def waitForJobs (perform : Perform) (arguments : List String) : ShellM Nat := do
  let rest ← withoutOptions arguments
  if rest.isEmpty then
    waitForEach perform
    return 0
  else waitForAll perform 127 rest

/-- The command `jobs`. -/
def listJobs (arguments : List String) : ShellM Nat := do
  let (options, rest) ← readOptions "lp" "" arguments
  let view : JobView :=
    match options.getLast?.map Prod.fst with
    | some 'p' => .number
    | some _ => .withNumber
    | none => .state
  if rest.isEmpty then (← process).recentJobs.forM fun (place, j) => showJob view place j
  else
    rest.forM fun word => do
      let (place, j) ← jobOf word
      showJob view place j
  return 0

/-- The commands `fg` and `bg`, which find no job to go on with. -/
def resumeJob (arguments : List String) : ShellM Nat := do
  let rest ← withoutOptions arguments
  let _ ← jobOf (rest.headD "%%")
  fail ("job " ++ rest.headD "(null)" ++ " not created under job control")

/-! ## 4. Limits -/

/-- The command `times`. -/
def showTimes : ShellM Nat := do
  let none := "0m0.000000s 0m0.000000s\n"
  say (none ++ none)
  return 0

/-- The command `ulimit`; nothing is limited. -/
def showLimit (arguments : List String) : ShellM Nat := do
  let (_, rest) ← readOptions "HSatfdscmlpnvwr" "" arguments
  match rest with
  | [] =>
    say "unlimited\n"
    return 0
  | [word] =>
    if word = "unlimited" || word.toList.all Char.isDigit then return 0 else fail "bad number"
  | _ => fail "too many arguments"

end CrossBuild.Shell
