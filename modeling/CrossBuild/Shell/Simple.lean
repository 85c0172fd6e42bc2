import CrossBuild.Shell.Builtin
import CrossBuild.Shell.Grammar
import CrossBuild.Shell.Redirect

/-!
# Simple commands

A simple command is expanded word by word until its name is known, because
the name decides how the rest is expanded: some commands take assignments.
Then come the redirections, then the assignments, and then the command is
run, as a function, by the shell itself, or as a program.
-/
namespace CrossBuild.Shell

/-! ## 1. The words of a call -/

/-- How a command is called. -/
structure Call where
  /-- The words that `command` took, and that name. -/
  taken : List String := []
  /-- The words that are expanded. -/
  words : List String := []
  /-- The words that are not yet expanded. -/
  rest : List Word
  /-- Whether a function may be called. -/
  mayBeFunction : Bool := true
  /-- The path that programs are looked for on, instead of the usual one. -/
  path : Option String := none
  /-- Whether the first name is that of a special command of the shell's own. -/
  isSpecial : Bool := false

namespace Call

/-- Expands words until one more field is there; false if none are left. -/
def draw (perform : Perform) : Nat → Call → ShellM (Bool × Call)
  | 0, c => return (false, c)
  | n + 1, c => do
    match c.rest with
    | [] => return (false, c)
    | word :: rest =>
      let fields ← expandFields perform word
      let c := { c with words := c.words ++ fields, rest }
      if fields.isEmpty then draw perform n c else return (true, c)

/-- Expands words until there is a field after the first `count`; that field, if there is
one. -/
def field (perform : Perform) (count : Nat) (c : Call) : ShellM (Option String × Call) := do
  match c.words[count]? with
  | some word => return (some word, c)
  | none =>
    let (_, c) ← draw perform (c.rest.length + 1) c
    return (c.words[count]?, c)

/-- Passes over the options of `command` after the first `count` fields: the number of
fields up to the name of the command, if one is to be run, and the path. -/
def skipOptions (perform : Perform) : Nat → Nat → Call → ShellM (Option Nat × Call)
  | 0, _, c => return (none, c)
  | n + 1, count, c => do
    let (word, c) ← c.field perform count
    match word.map String.toList with
    | none => return (none, c)
    | some ['-', '-'] =>
      let (next, c) ← c.field perform (count + 1)
      return (next.map fun _ => count + 1, c)
    | some ('-' :: letter :: letters) =>
      if (letter :: letters).all (· == 'p') then
        skipOptions perform n (count + 1) { c with path := some standardPath }
      else return (none, c)
    | some _ => return (some count, c)

/-- Whether the command is one of the shell's own, by its name as it is known so far. -/
def isBuiltin (c : Call) : ShellM Bool := do
  let p ← process
  match c.words.head? with
  | none => return true
  | some name =>
    let isFunction := c.mayBeFunction && p.functions.any fun x => x.1 == name
    return !isFunction && Shell.isBuiltin name

/-- Passes over `command` as often as it stands before the name of a command. -/
def skipCommand (perform : Perform) : Nat → Call → ShellM Call
  | 0, c => return c
  | n + 1, c => do
    if c.words.head? = some "command" && (← c.isBuiltin) then
      match ← c.skipOptions perform repeatLimit 1 with
      | (some count, c) =>
        skipCommand perform n
          { c with
            taken := c.taken ++ c.words.take count
            words := c.words.drop count
            mayBeFunction := false }
      | (none, c) => return c
    else return c

/-- Expands the words of a call. -/
def ofWords (perform : Perform) (words : List Word) : ShellM Call := do
  let (hasName, c) ← draw perform (words.length + 1) { rest := words }
  if !hasName then return c
  else
    let isSpecial := (← c.isBuiltin) && c.words.head?.any isSpecialBuiltin
    let c ← skipCommand perform repeatLimit { c with isSpecial }
    let hasAssignments := (← c.isBuiltin) && c.words.head?.any takesAssignments
    let more ← c.rest.mapM fun word =>
      if hasAssignments && word.isAssignment then do return [← expandAssignment perform word]
      else expandFields perform word
    return { c with words := c.words ++ more.flatten, rest := [] }

end Call

/-! ## 2. Lines, steps and traces -/

/-- Notes the line of a command. -/
def enterLine (line : Nat) : ShellM Unit :=
  modifyProcess fun p => { p with
    faultLine := line
    line := if p.functionLine = 0 then line else line - (p.functionLine - 1) }

/-- Counts a step; a script that takes too many is ended. -/
def countStep : ShellM Unit := do
  let n := (← get).world.stepsLeft
  if n = 0 then throw (.ended (.signalled 9))
  modifyWorld fun w => { w with stepsLeft := n - 1 }

/-- What the lines begin with that show commands. -/
def traceStart (perform : Perform) : ShellM String := do
  let text := ((← process).value? "PS4").getD ""
  match (Reader.ofText text).quotedText with
  | .ok word => expandDocument perform word
  | .error _ => return text

/-- Shows a command, on a stream. -/
def trace (perform : Perform) (stream : Option Nat) (words : List String) : ShellM Unit := do
  let p ← process
  if p.has .xtrace && !p.isTracing then
    modifyProcess fun p => { p with isTracing := true }
    let start ← afterwards (traceStart perform) do
      modifyProcess fun p => { p with isTracing := false }
    if let some i := stream then
      let _ ← writeStream i (Octets.toBytes (start ++ Text.joinWith " " words ++ "\n"))

/-! ## 3. Running -/

/-- Sends what a command has written, and says so if that fails; the status. -/
def sendOutput (status : Nat) : ShellM Nat := do
  if ← flush then return status
  else
    let name := ((← process).command).getD ""
    complain (name ++ ": I/O error")
    return status ||| 1

/-- Runs a command of the shell's own; a fault in it is over with it unless it is special. -/
def callBuiltin (perform : Perform) (mode : Mode) (c : Call) : ShellM Nat := do
  let before := (← process).command
  let name := c.words.head?
  let body : ShellM Nat := do
    modifyProcess fun p => { p with command := name }
    let status ← match name with
      | none => do pure (← process).substituted
      | some name => runBuiltin perform mode name c.words.tail
    let status ← sendOutput status
    setStatus status
    return status
  let whole := afterwards body do modifyProcess fun p => { p with command := before }
  if c.isSpecial then whole
  else
    match ← catchFault whole with
    | some status => return status
    | none => return (← process).status

/-- How many functions run at most, each called from the one before. -/
def callLimit : Nat := 1000

/-- Runs a function. -/
def callFunction (perform : Perform) (mode : Mode) (f : Function) (c : Call) : ShellM Nat := do
  let before ← process
  if callLimit ≤ before.callDepth then
    fail ("Maximum function recursion depth (" ++ toString callLimit ++ ") reached")
  modifyProcess fun p => { p with
    callDepth := before.callDepth + 1
    functionLine := f.line
    loops := 0
    arguments := c.words.tail
    optionPlace := (1, none) }
  let body : ShellM Nat := perform (.node { isTested := mode.isTested } (some f.body))
  let _ ← afterwards body do
    modifyProcess fun p => { p with
      callDepth := before.callDepth
      functionLine := before.functionLine
      loops := before.loops
      arguments := before.arguments
      optionPlace := before.optionPlace
      skip := match p.skip with
        | .function _ => .nothing
        | skip => skip }
  return (← process).status

/-- Runs a program, in a process of its own unless nothing follows it. -/
def callProgram (perform : Perform) (mode : Mode) (c : Call) (path : String)
    (entry : Option Nat) : ShellM Nat := do
  let body {α : Type} : ShellM α := becomeNamed perform path (entry.getD 0) c.words
  if mode.isLast && !(← process).hasTraps then body
  else statusOf (← runChild perform id body)

/-- Runs a call whose words, redirections and assignments are done. -/
def runCall (perform : Perform) (mode : Mode) (c : Call) : ShellM Nat := do
  if ← c.isBuiltin then callBuiltin perform mode c
  else
    let path := c.path.getD (← process).searchPath
    let name := c.words.headD ""
    match ← findCommand c.mayBeFunction path name with
    | .builtin => callBuiltin perform mode c
    | .function f => callFunction perform mode f c
    | .program entry => callProgram perform mode c path entry
    | .nothing e =>
      complainMissing name e
      setStatus 127
      return 127

/-- Does the assignments before a call, and gives them as text. -/
def assign (perform : Perform) (isLocal : Bool) (c : Call) (assignments : List Word) :
    ShellM (List String) := do
  let isExported : Bool := c.words.head? = some "exec" && 1 < c.words.length && (← c.isBuiltin)
  assignments.mapM fun word => do
    let text ← expandAssignment perform word
    if isLocal then makeLocal text { isExported := true }
    else
      let (name, value) := assignmentOf text
      setVariableAs name value { isExported }
    return text

/-- Runs a simple command. -/
def runSimple (perform : Perform) (mode : Mode) (line : Nat) (assignments words : List Word)
    (redirections : List Redirection) : ShellM Nat := do
  enterLine line
  countStep
  modifyProcess fun p => { p with substituted := 0 }
  let c ← Call.ofWords perform words
  let isLocal := !c.words.isEmpty && !c.isSpecial
  let depth := (← process).frames.length
  if isLocal then modifyProcess fun p => { p with frames := [] :: p.frames }
  afterwards
    (do
      let faults ← streamNumber? 2
      let sources ← expandTargets perform redirections
      let saved ← savedDescriptors sources
      let keeps := c.words.head? = some "exec" && (← c.isBuiltin)
      let body : ShellM (Nat × Bool) := do
        match ← catchFault (redirect perform true sources) with
        | none =>
          setStatus 2
          if c.isSpecial then throw .fault
          return (2, false)
        | some _ =>
          let settings ← assign perform isLocal c assignments
          trace perform faults (settings ++ c.taken ++ c.words)
          return (← runCall perform mode c, keeps)
      ExceptT.mk fun s =>
        match body.run s with
        | (.ok (status, true), s) => (.ok status, s)
        | (.ok (status, false), s) =>
          (.ok status, ((restoreDescriptors saved).run s).2)
        | (.error stop, s) => (.error stop, ((restoreDescriptors saved).run s).2))
    (endFrames depth)

end CrossBuild.Shell
