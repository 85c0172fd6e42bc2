import CrossBuild.Shell.Numeral
import CrossBuild.Shell.Stream

/-!
# Variables

Setting variables, keeping them for the end of a function, and showing them
so that they can be read again.
-/
namespace CrossBuild.Shell

/-- The marks that an assignment gives a variable. -/
structure Marks where
  /-- Whether programs are told of it. -/
  isExported : Bool := false
  /-- Whether it keeps its value. -/
  isReadonly : Bool := false
  /-- Whether it stays known without a value. -/
  isFixed : Bool := false

/-- Puts a variable in its place by the order of names, or takes it away. -/
def putVariable (name : String) (v : Option Variable) :
    List (String × Variable) → List (String × Variable)
  | [] => v.toList.map (name, ·)
  | (k, old) :: rest =>
    if k = name then v.toList.map (name, ·) ++ rest
    else if name < k then v.toList.map (name, ·) ++ (k, old) :: rest
    else (k, old) :: putVariable name v rest

/-- The number that an argument is. -/
def numberOf (text : String) : ShellM Nat := do
  match Numeral.whole? (some 10) text with
  | some n => if 0 ≤ n && n ≤ 2147483647 then return n.toNat else fail ("Illegal number: " ++ text)
  | none => fail ("Illegal number: " ++ text)

/-- What follows from a new value of a variable that the shell itself uses. -/
def variableChanged (name value : String) : ShellM Unit := do
  if name = "PATH" then modifyProcess fun p => { p with located := [] }
  else if name = "OPTIND" then
    let n ← numberOf value
    modifyProcess fun p => { p with optionPlace := (if n = 0 then 1 else n, none) }

/-- Sets a variable, or takes its value away. -/
def setVariableAs (name : String) (value : Option String) (marks : Marks) : ShellM Unit := do
  let p ← process
  let isExported := marks.isExported || p.has .allexport
  let hasMarks := isExported || marks.isReadonly || marks.isFixed
  match p.bindings.lookup name with
  | some old =>
    if old.isReadonly then fail (name ++ ": is read only")
    variableChanged name (value.getD "")
    let new : Option Variable :=
      if value.isNone && !hasMarks && !old.isFixed then none
      else
        some { value
               isExported := isExported || old.isExported
               isReadonly := marks.isReadonly || old.isReadonly
               isFixed := marks.isFixed || old.isFixed }
    modifyProcess fun p => { p with bindings := putVariable name new p.bindings }
  | none =>
    if value.isSome || hasMarks then
      modifyProcess fun p => { p with
        bindings := putVariable name
          (some { value, isExported, isReadonly := marks.isReadonly, isFixed := marks.isFixed })
          p.bindings }

/-- Sets a variable whose name is a text up to its equals sign, if it has one. -/
def setNamed (text : String) (value : Option String) (marks : Marks) : ShellM Unit := do
  let name := String.ofList (text.toList.takeWhile (· != '='))
  if isName name then setVariableAs name value marks else fail (name ++ ": bad variable name")

/-- Sets a variable to a value. -/
def setVariable (name value : String) : ShellM Unit :=
  setNamed name (some value) {}

/-- The name and the value in an assignment. -/
def assignmentOf (text : String) : String × Option String :=
  let cs := text.toList
  let name := cs.takeWhile (· != '=')
  (String.ofList name, if name.length < cs.length then some (String.ofList (cs.drop (name.length + 1))) else none)

/-- Keeps a variable for the end of the function, and sets it if a value is given. -/
def makeLocal (text : String) (marks : Marks) : ShellM Unit := do
  let keep (k : Kept) : ShellM Unit :=
    modifyProcess fun p =>
      match p.frames with
      | frame :: outer => { p with frames := (k :: frame) :: outer }
      | [] => p
  if text = "-" then keep (.options (← process).options)
  else
    let (name, value) := assignmentOf text
    let before := (← process).bindings.lookup name
    match before with
    | none =>
      let set := if value.isSome then setVariableAs else setNamed
      set name value { marks with isFixed := true }
    | some old =>
      modifyProcess fun p => { p with
        bindings := putVariable name (some { old with isFixed := true }) p.bindings }
      if value.isSome then setVariableAs name value marks
    keep (.variable name before)

/-- Brings back what was kept. -/
def bringBack : Kept → ShellM Unit
  | .options before => modifyProcess fun p => { p with options := before }
  | .variable name before => do
    match before with
    | some v => variableChanged name (v.value.getD "")
    | none => pure ()
    modifyProcess fun p => { p with bindings := putVariable name before p.bindings }

/-- Brings back what was kept since there were `depth` frames. -/
def endFrames (depth : Nat) : ShellM Unit := do
  let frames := (← process).frames
  (frames.take (frames.length - depth)).forM fun frame => do
    frame.forM bringBack
  modifyProcess fun p => { p with frames := p.frames.drop (p.frames.length - depth) }

/-- A text between quotes, as it can be read again: single quotes stand between double ones.
The bound is the length of the text. -/
def quotedUpTo : Nat → List Char → List Char
  | 0, _ => []
  | n + 1, cs =>
    let isQuote (c : Char) : Bool := c == '\''
    let (text, rest) := cs.span fun c => !isQuote c
    let (quotes, rest) := rest.span isQuote
    '\'' :: text ++ ['\''] ++
      if quotes.isEmpty then []
      else '"' :: quotes ++ ['"'] ++ if rest.isEmpty then [] else quotedUpTo n rest

/-- A text between quotes, as it can be read again. -/
def quoted (s : String) : String :=
  String.ofList (quotedUpTo (s.length + 1) s.toList)

end CrossBuild.Shell
