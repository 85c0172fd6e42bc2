import CrossBuild.Shell.Builtin.Output

/-!
# Marking, keeping and forgetting variables

The commands `export`, `readonly`, `local` and `unset`, and the listing of
variables, which can be read again as a script.
-/
namespace CrossBuild.Shell

/-- Shows the variables with a property, each after a word; `hasUnset` says whether those
without a value are shown too. -/
def showVariables (word : String) (hasUnset : Bool) (p : Variable → Bool) : ShellM Unit := do
  (← process).bindings.forM fun (name, v) =>
    if p v then
      match v.value with
      | some value => say (word ++ name ++ "=" ++ quoted value ++ "\n")
      | none => if hasUnset then say (word ++ name ++ "\n") else pure ()
    else pure ()

/-- Gives variables marks, and values where they are given; without variables, lists those
that have the marks. -/
def markVariables (command : String) (marks : Marks) (p : Variable → Bool)
    (arguments : List String) : ShellM Nat := do
  let (options, rest) ← readOptions "p" "" arguments
  if options.isEmpty && !rest.isEmpty then
    rest.forM fun word => do
      let (name, value) := assignmentOf word
      match value, (← process).bindings.lookup name with
      | none, some old =>
        let new : Variable :=
          { old with
            isExported := old.isExported || marks.isExported
            isReadonly := old.isReadonly || marks.isReadonly }
        modifyProcess fun p => { p with bindings := putVariable name (some new) p.bindings }
      | _, _ => setNamed name value marks
  else showVariables (command ++ " ") true p
  return 0

/-- The command `export`. -/
def exportVariables : List String → ShellM Nat :=
  markVariables "export" { isExported := true } (·.isExported)

/-- The command `readonly`. -/
def protectVariables : List String → ShellM Nat :=
  markVariables "readonly" { isReadonly := true } (·.isReadonly)

/-- The command `local`. -/
def localVariables (arguments : List String) : ShellM Nat := do
  if (← process).frames.isEmpty then fail "not in a function"
  arguments.forM fun word => makeLocal word {}
  return 0

/-- The command `unset`. -/
def unsetNames (arguments : List String) : ShellM Nat := do
  let (options, rest) ← readOptions "vf" "" arguments
  rest.forM fun word =>
    if (options.getLast?.map Prod.fst) == some 'f' then
      modifyProcess fun p => { p with functions := p.functions.filter fun x => x.1 != word }
    else setNamed (assignmentOf word).1 none {}
  return 0

end CrossBuild.Shell
