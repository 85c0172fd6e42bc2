import CrossBuild.Shell.Builtin.Output
import CrossBuild.Shell.Lookup
import CrossBuild.Shell.Token

/-!
# Asking what names stand for

The commands `type`, `command` where it only asks, `hash`, `alias` and
`unalias`.
-/
namespace CrossBuild.Shell

/-! ## 1. Descriptions -/

/-- What the name of a command stands for, and whether it is known from before. -/
def describedCommand (path : Option String) (name : String) : ShellM (Found × Bool) := do
  let p ← process
  let isFunction := p.functions.any fun x => x.1 == name
  match (if path.isNone && !isFunction then p.located.lookup name else none) with
  | some known => return (.program (some known.entry), true)
  | none =>
    if name.toList.contains '/' then
      match ← entryAt name with
      | .ok _ => return (.program none, false)
      | .error e => return (.nothing e, false)
    else return (← findCommand true (path.getD p.searchPath) name, false)

/-- Says what a name stands for, in words or in a form that can be run; the status. -/
def describe (inWords : Bool) (path : Option String) (name : String) : ShellM Nat := do
  let answer (words : String) (brief : String) : ShellM Nat := do
    say ((if inWords then name ++ words else brief) ++ "\n")
    return 0
  if (Reserved.ofText? name).isSome then answer " is a shell keyword" name
  else
    match (← process).aliases.lookup name with
    | some value => answer (" is an alias for " ++ value) ("alias " ++ name ++ "=" ++ quoted value)
    | none =>
      match ← describedCommand path name with
      | (.program entry, isKnown) =>
        let place := foundPath (path.getD (← process).searchPath) name entry
        answer (" is" ++ (if isKnown then " a tracked alias for " else " ") ++ place) place
      | (.function _, _) => answer " is a shell function" name
      | (.builtin, _) =>
        let kind := if isSpecialBuiltin name then "special " else ""
        answer (" is a " ++ kind ++ "shell builtin") name
      | (.nothing _, _) =>
        if inWords then say (name ++ ": not found\n")
        return 127

/-- The command `type`. -/
def describeAll (arguments : List String) : ShellM Nat := do
  let statuses ← (← withoutOptions arguments).mapM (describe true none)
  return statuses.foldl max 0

/-- The command `command` where it runs nothing. -/
def describeCommand (arguments : List String) : ShellM Nat := do
  let (options, rest) ← readOptions "pvV" "" arguments
  let has (c : Char) : Bool := options.any fun x => x.1 == c
  match rest.head? with
  | some name =>
    if has 'v' || has 'V' then
      describe (has 'V') (if has 'p' then some standardPath else none) name
    else return 0
  | none => return 0

/-! ## 2. Remembered programs -/

/-- The number of lists of the table of programs. -/
def programLists : Nat := 31

/-- Shows the programs that are remembered. -/
def showLocated : ShellM Unit := do
  let p ← process
  (tableOrder programLists p.located).forM fun (name, x) =>
    say (foundPath p.searchPath name (some x.entry) ++ (if x.isStale then "*\n" else "\n"))

/-- Looks for programs anew, and remembers where they are; the status. -/
def relocate : (status : Nat) → List String → ShellM Nat
  | status, [] => return status
  | status, name :: rest => do
    remember name none
    match ← findCommand true (← process).searchPath name with
    | .nothing e =>
      complainMissing name e
      relocate 1 rest
    | _ => relocate status rest

/-- The command `hash`. -/
def hash (arguments : List String) : ShellM Nat := do
  let (options, rest) ← readOptions "r" "" arguments
  if !options.isEmpty then
    modifyProcess fun p => { p with located := [] }
    return 0
  else if rest.isEmpty then
    showLocated
    return 0
  else relocate 0 rest

/-! ## 3. Aliases -/

/-- The number of lists of the table of aliases. -/
def aliasLists : Nat := 39

/-- Shows an alias. -/
def showAlias (name value : String) : ShellM Unit :=
  say (name ++ "=" ++ quoted value ++ "\n")

/-- Sets an alias. -/
def setAlias (name value : String) : ShellM Unit :=
  modifyProcess fun p =>
    let isKnown := p.aliases.any fun x => x.1 == name
    { p with
      aliases :=
        if isKnown then p.aliases.map fun x => if x.1 = name then (name, value) else x
        else p.aliases ++ [(name, value)] }

/-- Reports that there is no alias of a name. -/
def sayNoAlias (command name : String) : ShellM Unit :=
  sayFault (command ++ ": " ++ name ++ " not found\n")

/-- Sets or shows the aliases that words name; the status. -/
def changeAliases : (status : Nat) → List String → ShellM Nat
  | status, [] => return status
  | status, word :: rest => do
    let cs := word.toList
    let name := cs.take 1 ++ (cs.drop 1).takeWhile (· != '=')
    if name.length < cs.length then
      setAlias (String.ofList name) (String.ofList (cs.drop (name.length + 1)))
      changeAliases status rest
    else
      match (← process).aliases.lookup word with
      | some value =>
        showAlias word value
        changeAliases status rest
      | none =>
        sayNoAlias "alias" word
        changeAliases 1 rest

/-- The command `alias`. -/
def setAliases (arguments : List String) : ShellM Nat := do
  if arguments.isEmpty then
    (tableOrder aliasLists (← process).aliases).forM fun (name, value) => showAlias name value
    return 0
  else changeAliases 0 arguments

/-- Takes away the aliases that words name; the status. -/
def dropAliases : (status : Nat) → List String → ShellM Nat
  | status, [] => return status
  | status, name :: rest => do
    if (← process).aliases.any fun x => x.1 == name then
      modifyProcess fun p => { p with aliases := p.aliases.filter fun x => x.1 != name }
      dropAliases status rest
    else
      sayNoAlias "unalias" name
      dropAliases 1 rest

/-- The command `unalias`. -/
def unalias (arguments : List String) : ShellM Nat := do
  let (options, rest) ← readOptions "a" "" arguments
  if options.isEmpty then dropAliases 0 rest
  else
    modifyProcess fun p => { p with aliases := [] }
    return 0

end CrossBuild.Shell
