import CrossBuild.CommandLine.Grammar

/-!
# Reading arguments against a grammar

Arguments are read from left to right.  An option's value may follow as the
next argument, so what was given last is kept open until it is known to be
complete; only then is it checked (`Reading.settle`).  That order decides
which of two errors a user sees.
-/
namespace CrossBuild.CommandLine

/-- What was given under each name, in order; a switch has no values. -/
abbrev Given := List (String × List String)

namespace Given

/-- Whether something was given under a name. -/
def has (given : Given) (name : String) : Bool :=
  given.any fun x => x.1 == name

/-- The values given under a name. -/
def values (given : Given) (name : String) : List String :=
  (given.filter fun x => x.1 == name).flatMap Prod.snd

/-- The first value given under a name. -/
def value? (given : Given) (name : String) : Option String :=
  (given.values name).head?

end Given

/-- What is given but not yet complete. -/
structure Pending where
  /-- The name. -/
  name : String
  /-- How it is given. -/
  shape : OptionShape
  /-- The values so far. -/
  values : List String

/-- How far the arguments of one command are read. -/
structure Reading where
  /-- What is complete. -/
  given : Given := []
  /-- What was given last. -/
  pending : Option Pending := none
  /-- Whether the next argument may be the value of what was given last. -/
  awaiting : Bool := false
  /-- How many positional arguments were given. -/
  position : Nat := 0
  /-- Whether a double hyphen came, after which no argument is an option. -/
  literal : Bool := false

namespace Reading

/-! ## 1. Completing what is open -/

/-- Records values under a name. -/
def record (r : Reading) (name : String) (values : List String) : Reading :=
  { r with given := r.given ++ [(name, values)], pending := none, awaiting := false }

/-- The reading with values given, if they are as their shape asks. -/
def complete (r : Reading) (p : Pending) : Except UsageError Reading :=
  match p.shape, p.values with
  | .repeated _ _, [] | .single _, [] => .error .invalidValue
  | .repeated separator _, values =>
    .ok (r.record p.name (match separator with
      | some c => values.flatMap (Text.splitOn c)
      | none => values))
  | .single rule, values =>
    if r.given.has p.name then .error .argumentConflict
    else
      match values.findSome? rule.refusal? with
      | some e => .error e
      | none => .ok (r.record p.name values)
  | .switch, _ =>
    if r.given.has p.name then .error .argumentConflict else .ok (r.record p.name [])
  | .help, _ => .error .helpWanted
  | .version, _ => .error .versionWanted

/-- The reading in which nothing is open. -/
def settle (r : Reading) : Except UsageError Reading :=
  match r.pending with
  | none => .ok r
  | some p => { r with pending := none, awaiting := false }.complete p

/-- Completes what is open, and then gives an option with all that belongs to it. -/
def give (r : Reading) (o : OptionRule) (values : List String) : Except UsageError Reading := do
  (← r.settle).complete ⟨o.name, o.shape, values⟩

/-- Completes what is open, and leaves an option open for its value. -/
def await (r : Reading) (o : OptionRule) : Except UsageError Reading := do
  return { ← r.settle with pending := some ⟨o.name, o.shape, []⟩, awaiting := true }

/-! ## 2. One argument -/

/-- Whether the next argument is a value, whatever it looks like. -/
def takesAnything (r : Reading) : Bool :=
  r.awaiting &&
    match r.pending with
    | some ⟨_, .repeated _ takesHyphens, _⟩ => takesHyphens
    | _ => false

/-- Takes an argument as the value that was waited for. -/
def takeValue (r : Reading) (argument : String) : Reading :=
  { r with
    pending := r.pending.map fun p => { p with values := p.values ++ [argument] }
    awaiting := false }

/-- Takes an argument as one of those after the double hyphen. -/
def takeRest (r : Reading) (name argument : String) : Except UsageError Reading :=
  match r.pending with
  | some p =>
    if p.name = name then .ok (r.takeValue argument)
    else do
      return { ← r.settle with pending := some ⟨name, .repeated none false, [argument]⟩ }
  | none => .ok { r with pending := some ⟨name, .repeated none false, [argument]⟩ }

/-- The error that an argument is for which there is no place. -/
def misplaced (g : Grammar) (r : Reading) (argument : String) : UsageError :=
  if g.commands.isEmpty || (r.literal && g.commands.contains argument) then .unknownArgument
  else .invalidSubcommand

/-- Takes an argument by its position. -/
def takePositional (g : Grammar) (r : Reading) (argument : String) : Except UsageError Reading :=
  match r.literal, g.rest with
  | true, some name => r.takeRest name argument
  | _, _ =>
    match g.positionals[r.position]? with
    | some (name, rule) => do
      return { ← r.settle with
        pending := some ⟨name, .single rule, [argument]⟩
        position := r.position + 1 }
    | none => .error (misplaced g r argument)

/-- Takes an argument that begins with two hyphens, which are not in `cs`. -/
def takeLong (g : Grammar) (r : Reading) (cs : List Char) : Except UsageError Reading :=
  let name := String.ofList (cs.takeWhile (· != '='))
  let attached := match cs.dropWhile (· != '=') with
    | [] => none
    | _ :: value => some (String.ofList value)
  match g.byName? name, attached with
  | none, _ => .error .unknownArgument
  | some o, some value => if o.shape.takesValue then r.give o [value] else .error .tooManyValues
  | some o, none => if o.shape.takesValue then r.await o else r.give o []

/-- Takes the letters of an argument that begins with one hyphen.  What follows the
letter of an option with a value is that value, after an equals sign if there is one. -/
def takeLetters (g : Grammar) (r : Reading) : List Char → Except UsageError Reading
  | [] => .ok r
  | c :: cs =>
    match g.byLetter? c with
    | none => .error .unknownArgument
    | some o =>
      if o.shape.takesValue then
        match cs with
        | [] => r.await o
        | '=' :: value => r.give o [String.ofList value]
        | value => r.give o [String.ofList value]
      else
        match r.give o [] with
        | .ok r => takeLetters g r cs
        | .error e => .error e

/-- Takes one argument. -/
def take (g : Grammar) (r : Reading) (argument : String) : Except UsageError Reading :=
  if r.literal then takePositional g r argument
  else if r.takesAnything then .ok (r.takeValue argument)
  else
    match argument.toList with
    | ['-', '-'] => .ok { r with literal := true }
    | '-' :: '-' :: cs => takeLong g r cs
    | '-' :: c :: cs => takeLetters g r (c :: cs)
    | _ => if r.awaiting then .ok (r.takeValue argument) else takePositional g r argument

/-- Whether an argument is read as the name of a command. -/
def isCommand (g : Grammar) (r : Reading) (argument : String) : Bool :=
  !r.literal && !r.awaiting && g.commands.contains argument

/-! ## 3. All arguments of a command -/

/-- Reads arguments up to the name of a command, which is given back with the
arguments after it. -/
def takeAll (g : Grammar) (r : Reading) :
    List String → Except UsageError (Reading × Option (String × List String))
  | [] => .ok (r, none)
  | argument :: rest =>
    if isCommand g r argument then .ok (r, some (argument, rest))
    else
      match take g r argument with
      | .ok r => takeAll g r rest
      | .error e => .error e

/-- What a command that has no commands of its own is given. -/
def readAll (g : Grammar) (arguments : List String) : Except UsageError Given := do
  let (r, _) ← takeAll g {} arguments
  let given := (← r.settle).given
  let conflicts := match g.exclusive with
    | some (one, other) => given.has one && given.has other
    | none => false
  if conflicts then throw .argumentConflict
  if g.positionals.any fun x => !given.has x.1 then throw .missingRequiredArgument
  return given

end Reading

end CrossBuild.CommandLine
