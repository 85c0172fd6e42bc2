import CrossBuild.Shell.Builtin.Variables

/-!
# Switches and arguments

The commands `set`, `shift` and `getopts`.  The switches that `set` changes
can also be given to a shell when it is started (`readSwitches`).
-/
namespace CrossBuild.Shell

/-! ## 1. Switches -/

/-- Turns the switch of a letter on or off; of the two ways to edit lines, the letters turn
on only one. -/
def setSwitch (letter : Char) (isOn : Bool) : ShellM Unit := do
  match ShellOption.all.find? fun o => o.letter? == some letter with
  | none => fail ("Illegal option -" ++ toString letter)
  | some o =>
    modifyProcess fun p => p.setOption o isOn
    if isOn && o = .vi then modifyProcess fun p => p.setOption .emacs false
    if isOn && o = .emacs then modifyProcess fun p => p.setOption .vi false

/-- Turns the switch of a name on or off; without a name, lists all switches. -/
def setNamedSwitch (name : Option String) (isOn : Bool) : ShellM Unit := do
  match name with
  | some name =>
    match ShellOption.all.find? fun o => o.name == name with
    | none => fail ("Illegal option -o " ++ name)
    | some o => modifyProcess fun p => p.setOption o isOn
  | none =>
    let p ← process
    if isOn then
      say "Current option settings\n"
      ShellOption.all.forM fun o =>
        let gap := String.ofList (List.replicate (16 - o.name.length) ' ')
        say (o.name ++ gap ++ (if p.has o then "on\n" else "off\n"))
    else
      ShellOption.all.forM fun o =>
        say ("set " ++ (if p.has o then "-o " else "+o ") ++ o.name ++ "\n")

/-- Turns the switches of the letters of one argument on or off; gives the arguments after
it, and whether a letter asked for a script.  That letter is known only `atStart`. -/
def setSwitches (atStart isOn : Bool) : List Char → List String → ShellM (List String × Bool)
  | [], rest => return (rest, false)
  | c :: letters, rest => do
    if c == 'c' && atStart then
      let (rest, _) ← setSwitches atStart isOn letters rest
      return (rest, true)
    else if c == 'l' && atStart then setSwitches atStart isOn letters rest
    else if c == 'o' then
      setNamedSwitch rest.head? isOn
      setSwitches atStart isOn letters rest.tail
    else
      setSwitch c isOn
      setSwitches atStart isOn letters rest

/-- The switches at the start of arguments. -/
structure Switches where
  /-- The arguments after them. -/
  rest : List String
  /-- Whether a script is among the arguments. -/
  hasScript : Bool := false
  /-- Whether they were ended by two hyphens. -/
  isEnded : Bool := false

/-- Reads the switches at the start of arguments, and sets them.  The bound is the number
of arguments. -/
def readSwitches (atStart : Bool) : Nat → Switches → ShellM Switches
  | 0, s => return s
  | n + 1, s => do
    match s.rest with
    | [] => return s
    | word :: others =>
      match word.toList with
      | ['-'] =>
        if !atStart then
          modifyProcess fun p => (p.setOption .xtrace false).setOption .verbose false
        return { s with rest := others }
      | ['-', '-'] => return { s with rest := others, isEnded := true }
      | sign :: letters =>
        if sign == '-' || sign == '+' then
          let (rest, hasScript) ← setSwitches atStart (sign == '-') letters others
          readSwitches atStart n { s with rest, hasScript := s.hasScript || hasScript }
        else return s
      | [] => return s

/-- Refuses what needs a terminal. -/
def checkTerminal : ShellM Unit := do
  if (← process).has .monitor then
    complain "can't access tty; job control turned off"
    modifyProcess fun p => p.setOption .monitor false

/-! ## 2. Arguments -/

/-- Replaces the arguments. -/
def setArguments (arguments : List String) : ShellM Unit :=
  modifyProcess fun p => { p with arguments, optionPlace := (1, none) }

/-- The command `set`. -/
def setAll (arguments : List String) : ShellM Nat := do
  if arguments.isEmpty then showVariables "" false fun _ => true
  else
    let s ← readSwitches false (arguments.length + 1) { rest := arguments }
    checkTerminal
    if s.isEnded || !s.rest.isEmpty then setArguments s.rest
  return 0

/-- The command `shift`. -/
def shiftArguments (arguments : List String) : ShellM Nat := do
  let n ← match arguments.head? with
    | some word => numberOf word
    | none => pure 1
  let mine := (← process).arguments
  if mine.length < n then fail "can't shift that many"
  setArguments (mine.drop n)
  return 0

/-! ## 3. Options of scripts -/

/-- What an option is found to be. -/
inductive FoundOption where
  /-- There are no more. -/
  | none
  /-- It is not known. -/
  | unknown (letter : Char)
  /-- Its value is missing. -/
  | withoutValue (letter : Char)
  /-- It is known; it may have a value. -/
  | known (letter : Char) (value : String)

/-- Whether a letter is among the options of a text, and what follows it there. -/
def knownOption? (letter : Char) : List Char → Option (List Char)
  | [] => none
  | c :: ':' :: rest => if c == letter then some (':' :: rest) else knownOption? letter rest
  | c :: rest => if c == letter then some rest else knownOption? letter rest

/-- Looks for the next option in words, from a place on: what it is, the number of the word
that is next, and how much of the word before that is done. -/
def nextOption (known : List Char) (words : List String) (place : Nat × Option Nat) :
    FoundOption × Nat × Option Nat :=
  let (i, done) := place
  let current : List Char :=
    match done, (if 1 < i then words[i - 2]? else none) with
    | some n, some word => word.toList.drop n
    | _, _ => []
  let found (cs : List Char) (i : Nat) : FoundOption × Nat × Option Nat :=
    match cs with
    | [] => (.none, i, none)
    | c :: rest =>
      let size := ((words[i - 2]?).getD "").length
      match knownOption? c known with
      | none => (.unknown c, i, some (size - rest.length))
      | some (':' :: _) =>
        if rest.isEmpty then
          match words[i - 1]? with
          | some value => (.known c value, i + 1, none)
          | none => (.withoutValue c, i, none)
        else (.known c (String.ofList rest), i, none)
      | some _ => (.known c "", i, some (size - rest.length))
  if !current.isEmpty then found current i
  else
    match (words[i - 1]?).map String.toList with
    | some ['-', '-'] => (.none, i + 1, none)
    | some ('-' :: c :: rest) => found (c :: rest) (i + 1)
    | _ => (.none, i, none)

/-- The command `getopts`. -/
def nextScriptOption (arguments : List String) : ShellM Nat := do
  match ← withoutOptions arguments with
  | known :: name :: rest =>
    let p ← process
    let words := if rest.isEmpty then p.arguments else rest
    let place := if words.length + 1 < p.optionPlace.1 then (1, none) else p.optionPlace
    let (found, i, done) := nextOption known.toList words place
    let isQuiet := known.toList.head? == some ':'
    let complainAbout (text : String) (c : Char) : ShellM Unit :=
      if isQuiet then setVariable "OPTARG" (toString c)
      else do
        sayFault text
        setVariableAs "OPTARG" none {}
    let letter : Char ← match found with
      | .none => pure '?'
      | .unknown c =>
        complainAbout ("Illegal option -" ++ toString c ++ "\n") c
        pure '?'
      | .withoutValue c =>
        complainAbout ("No arg for -" ++ toString c ++ " option\n") c
        pure (if isQuiet then ':' else '?')
      | .known c value =>
        setVariable "OPTARG" value
        pure c
    let before := (← process).optionPlace
    setVariable "OPTIND" (toString i)
    modifyProcess fun p => { p with optionPlace := before }
    setVariable name (toString letter)
    modifyProcess fun p => { p with optionPlace := (i, done) }
    match found with
    | .none => return 1
    | _ => return 0
  | _ => fail "Usage: getopts optstring var [arg...]"

end CrossBuild.Shell
