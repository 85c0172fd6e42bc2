import CrossBuild.Shell.Simple

/-!
# Commands made of commands

Each form of command in terms of the running of its parts, which is an
argument (`Perform`).  A command that fails ends the shell if that was asked
for, unless somebody looks at its status; a signal is dealt with between two
commands.
-/
namespace CrossBuild.Shell

/-! ## 1. Between commands -/

/-- Whether commands are passed over now. -/
def isSkipping : ShellM Bool := do
  return (← process).skip ≠ .nothing

/-- Does what was asked for at signals, as long as no commands are passed over; what the
last command left stays, unless an action says otherwise. -/
def doActions (perform : Perform) (status : Nat) : List Nat → ShellM Unit
  | [] => return
  | signal :: rest => do
    if ← isSkipping then return
    modifyProcess fun p => { p with arrived := p.arrived.filter (· != signal) }
    if let some action := (← process).traps.lookup signal then
      let _ ← perform (.text {} action)
      if (← process).skip ≠ .function true then setStatus status
    doActions perform status rest

/-- Deals with the signals that have come. -/
def dealWithSignals (perform : Perform) : ShellM Unit := do
  let p ← process
  if !p.arrived.isEmpty then
    let status := p.trapStatus.getD p.status
    modifyProcess fun q => { q with trapStatus := some status }
    doActions perform status ((List.range Signal.count).filter p.arrived.contains)
    modifyProcess fun q => { q with trapStatus := p.trapStatus }

/-! ## 2. Loops -/

/-- What follows a part of a loop. -/
inductive AfterPart where
  /-- The next part. -/
  | goOn
  /-- The next round. -/
  | nextRound
  /-- The end of the loop. -/
  | leave
  /-- The end of the loop and of the function. -/
  | leaveFunction
  deriving DecidableEq

/-- Finds what follows a part of a loop, and ends the skipping that this loop is the aim of. -/
def afterPart : ShellM AfterPart := do
  let stop (count : Nat) (last : AfterPart) (outer : Skip) : ShellM AfterPart := do
    modifyProcess fun p => { p with skip := if count ≤ 1 then .nothing else outer }
    return if count ≤ 1 then last else .leave
  match (← process).skip with
  | .nothing => return .goOn
  | .loops count => stop count .leave (.loops (count - 1))
  | .rounds count => stop count .nextRound (.rounds (count - 1))
  | .function _ => return .leaveFunction

/-- Does something as the body of a loop. -/
def insideLoop {α : Type} (body : ShellM α) : ShellM α := do
  modifyProcess fun p => { p with loops := p.loops + 1 }
  afterwards body do modifyProcess fun p => { p with loops := p.loops - 1 }

/-- Repeats a body while a condition holds, or until it does; `status` is that of the last
round. -/
def repeatBody (perform : Perform) (mode : Mode) (isUntil : Bool) (condition body : Node) :
    Nat → (status : Nat) → ShellM Nat
  | 0, status => return status
  | n + 1, status => do
    let i ← perform (.node { isTested := true } (some condition))
    match ← afterPart with
    | .nextRound => repeatBody perform mode isUntil condition body n status
    | .leave => return status
    | .leaveFunction => return i
    | .goOn =>
      if (i = 0) = isUntil then return status
      else
        let status ← perform (.node mode (some body))
        match ← afterPart with
        | .leave | .leaveFunction => return status
        | _ => repeatBody perform mode isUntil condition body n status

/-- Does a body for each word; `status` is that of the last round. -/
def doForEach (perform : Perform) (mode : Mode) (name : String) (body : Node) :
    (status : Nat) → List String → ShellM Nat
  | status, [] => return status
  | _, word :: rest => do
    setVariable name word
    let status ← perform (.node mode (some body))
    match ← afterPart with
    | .leave | .leaveFunction => return status
    | _ => doForEach perform mode name body status rest

/-! ## 3. Selections -/

/-- Whether a text fits one of some patterns. -/
def fitsAny (perform : Perform) (text : String) : List Word → ShellM Bool
  | [] => return false
  | word :: rest => do
    if Pattern.fits (← expandPattern perform word) text.toList then return true
    else fitsAny perform text rest

/-- Does the first arm with a pattern that a text fits. -/
def doFirstArm (perform : Perform) (mode : Mode) (text : String) :
    List (List Word × Option Node) → ShellM Nat
  | [] => return 0
  | (patterns, body) :: rest => do
    if ← isSkipping then return 0
    else if ← fitsAny perform text patterns then
      if body.isNone || (← isSkipping) then return 0 else perform (.node mode body)
    else doFirstArm perform mode text rest

/-! ## 4. Processes -/

/-- Runs a command in a process of its own, or as the end of this one. -/
def runSubshell (perform : Perform) (mode : Mode) (line : Nat) (body : Node)
    (redirections : List Redirection) : ShellM Nat := do
  enterLine line
  let sources ← expandTargets perform redirections
  let inside : ShellM Unit := do
    redirect perform false sources
    let _ ← perform (.node { mode with isLast := true } (some body))
  if mode.isLast && !(← process).hasTraps then
    modifyProcess fun p => { p with readLine := p.ownLine }
    inside
    throw (.exit false)
  else statusOf (← runChild perform id inside)

/-- A process that does not read what its shell reads. -/
def withoutInput : ShellM (Process → Process) := do
  let i ← newStream .null
  return fun p => p.attach 0 i

/-- Starts a command that is not waited for. -/
def runInBackground (line : Nat) (body : Node) (redirections : List Redirection) :
    ShellM Nat := do
  if line ≠ 0 then enterLine line
  startJob 1 (← withoutInput) (.node { isLast := true } (some (.subshell line body redirections)))
  return 0

/-- Turns a stream round, so that what was written to it can be read. -/
def turnRound (i : Nat) : ShellM Unit := do
  match (← get).world.streams[i]? with
  | some (.sink data _) => setStream i (.source data 0)
  | _ => pure ()

/-- Runs the commands of a pipeline after the first; `input` is what the next one reads. -/
def runStages (perform : Perform) (mode : Mode) (input : Option Nat) : List Node → ShellM Nat
  | [] => return 0
  | c :: rest => do
    let read (p : Process) : Process :=
      match input with
      | some i => p.attach 0 i
      | none => p
    let body : ShellM Unit := do
      let _ ← perform (.node { mode with isLast := true } (some c))
    match rest with
    | [] => statusOf (← runSplit perform read body)
    | _ =>
      let since := (← get).world.nextNumber
      let output ← newStream (.sink ByteArray.empty true)
      let ending ← runSplit perform (fun p => (read p).attach 1 output) body
      let _ ← statusOf ending
      runWaiting perform since
      turnRound output
      runStages perform mode (some output) rest

/-- Runs a pipeline. -/
def runPipeline (perform : Perform) (mode : Mode) (commands : List Node) (inBackground : Bool) :
    ShellM Nat := do
  if inBackground then
    startJob commands.length (← withoutInput)
      (.node { mode with isLast := true } (some (.pipeline commands false)))
    return 0
  else
    let _ ← freePlace
    let status ← runStages perform mode none commands
    receiveSent
    return status

/-! ## 5. All forms -/

/-- The commands that a command does one after the other, before some others. -/
def stepsOf : Node → List Node → List Node
  | .sequence first second, rest => stepsOf first (second :: rest)
  | c, rest => c :: rest

/-- Runs commands one after the other. -/
def runSteps (perform : Perform) (mode : Mode) : List Node → ShellM Nat
  | [] => return 0
  | [c] => perform (.node mode (some c))
  | c :: rest => do
    let status ← perform (.node { mode with isLast := false } (some c))
    if ← isSkipping then return status else runSteps perform mode rest

/-- Runs a command with redirections of its own. -/
def runRedirected (perform : Perform) (mode : Mode) (line : Nat) (body : Node)
    (redirections : List Redirection) : ShellM Nat := do
  enterLine line
  let sources ← expandTargets perform redirections
  let saved ← savedDescriptors sources
  let inside : ShellM Nat := do
    match ← catchFault (redirect perform true sources) with
    | none => return 2
    | some _ => perform (.node { mode with isLast := false } (some body))
  afterwards inside (restoreDescriptors saved)

/-- Whether the failure of a command of some form may end the shell. -/
def endsOnFailure : Node → Bool
  | .command .. | .subshell .. | .background .. | .pipeline .. => true
  | _ => false

/-- Runs a command that is there, by its form. -/
def runForm (perform : Perform) (mode : Mode) : Node → ShellM Nat
  | .command line assignments words redirections =>
    runSimple perform mode line assignments words redirections
  | .pipeline commands inBackground => runPipeline perform mode commands inBackground
  | .redirected line body redirections => runRedirected perform mode line body redirections
  | .background line body redirections => runInBackground line body redirections
  | .subshell line body redirections => runSubshell perform mode line body redirections
  | .negated body => do
    let status ← perform (.node { isTested := true } (some body))
    if ← isSkipping then return status else return if status = 0 then 1 else 0
  | .both first second => do
    let status ← perform (.node { isTested := true } (some first))
    if status ≠ 0 || (← isSkipping) then return status else perform (.node mode (some second))
  | .either first second => do
    let status ← perform (.node { isTested := true } (some first))
    if status = 0 || (← isSkipping) then return status else perform (.node mode (some second))
  | .sequence first second => runSteps perform mode (stepsOf (.sequence first second) [])
  | .branch condition body otherwise => do
    let status ← perform (.node { isTested := true } (some condition))
    if ← isSkipping then return status
    else if status = 0 then perform (.node mode (some body))
    else if otherwise.isSome then perform (.node mode otherwise)
    else return 0
  | .loop isUntil condition body =>
    insideLoop (repeatBody perform { mode with isLast := false } isUntil condition body repeatLimit 0)
  | .each line name words body => do
    enterLine line
    let fields ← match words with
      | some words => expandAll perform words
      | none => do pure (← process).arguments
    insideLoop (doForEach perform { mode with isLast := false } name body 0 fields)
  | .select line word arms => do
    enterLine line
    doFirstArm perform mode (← expandText perform word) arms
  | .define line name body => do
    remember name none
    modifyProcess fun p => { p with
      functions := (name, { line, body }) :: p.functions.filter fun x => x.1 != name }
    return 0

/-- Runs a command, or none. -/
def runNode (perform : Perform) (mode : Mode) (command : Option Node) : ShellM Nat := do
  let p ← process
  let status ←
    match (if p.has .noexec then none else command) with
    | none => pure 0
    | some c =>
      dealWithSignals perform
      let isChecked := (← process).has .errexit && !mode.isTested && endsOnFailure c
      let status ← runForm perform mode c
      setStatus status
      if isChecked && status ≠ 0 then throw (.exit false)
      pure status
  dealWithSignals perform
  if mode.isLast then throw (.exit false)
  return status

end CrossBuild.Shell
