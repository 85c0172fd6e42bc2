import CrossBuild.Shell.Arithmetic
import CrossBuild.Shell.Field
import CrossBuild.Shell.Job
import CrossBuild.Shell.PathPattern
import CrossBuild.Shell.Variable

/-!
# Substitutions in words

Every part of a word is replaced by its glyphs, from the left.  What is not
quoted and comes from a substitution is recorded, to be split afterwards; a
field that is a pattern of paths becomes the paths that it fits.
-/
namespace CrossBuild.Shell

/-! ## 1. How a word is expanded -/

/-- How a word is expanded. -/
structure Style where
  /-- Whether it becomes fields, so that quoting matters afterwards. -/
  isField : Bool := false
  /-- Whether it becomes a pattern, so that quoting matters afterwards. -/
  isPattern : Bool := false
  /-- Whether all of it is quoted. -/
  isQuoted : Bool := false
  /-- Whether it is the word of a parameter, so that it is split too. -/
  isInner : Bool := false
  /-- Whether it may begin with a user's directory. -/
  hasHome : Bool := false
  /-- Whether a user's directory may stand after every colon in it. -/
  hasHomes : Bool := false
  /-- Whether the equals sign of the assignment has been passed. -/
  isPastName : Bool := false

namespace Style

/-- Whether quoting matters afterwards. -/
def keepsQuotes (s : Style) : Bool :=
  s.isField || s.isPattern

/-- The style in a quoted stretch. -/
def inQuotes (s : Style) (quotes : Bool) : Style :=
  { s with isQuoted := s.isQuoted || quotes }

end Style

/-- Adds the text of a value. -/
def Expanded.addText (e : Expanded) (style : Style) (text : String) : Expanded :=
  text.foldl
    (fun e c =>
      let isMarked := style.keepsQuotes &&
        (isMarkedOctet c || (style.isQuoted && (c == '\\' || patternChars.contains c)))
      e.push (if isMarked then .escaped c else .plain c)) e

/-- Adds a quote mark if quoting matters afterwards. -/
def Expanded.addMark (e : Expanded) (style : Style) : Expanded :=
  if style.keepsQuotes then e.push .mark else e

/-- Adds a character that stands for itself. -/
def Expanded.addEscaped (e : Expanded) (style : Style) (c : Char) : Expanded :=
  e.push (if style.keepsQuotes then .escaped c else .plain c)

/-! ## 2. Users' directories -/

/-- The directory of a user; of the one who runs the shell if the name is empty. -/
def homeOf (name : String) : ShellM (Option String) := do
  match name with
  | "" => return (← process).value? "HOME"
  | "root" => return some "/root"
  | "daemon" => return some "/usr/sbin"
  | "bin" => return some "/bin"
  | "sys" => return some "/dev"
  | "nobody" => return some "/nonexistent"
  | _ => return none

/-- The name of a user at the start of a word, after its tilde, and what follows it. -/
def userName? (hasHomes : Bool) : Word → Option (List Char × Word)
  | [] => some ([], [])
  | .char c :: rest =>
    if c == '/' || (hasHomes && c == ':') then some ([], .char c :: rest)
    else (userName? hasHomes rest).map fun (name, rest) => (c :: name, rest)
  | _ :: _ => none

/-- The directory that a word begins with, and what follows it. -/
def leadingHome (style : Style) (word : Word) : ShellM (Option (String × Word)) := do
  match word with
  | .char '~' :: rest =>
    match userName? style.hasHomes rest with
    | none => return none
    | some (name, rest) => return (← homeOf (String.ofList name)).map (·, rest)
  | _ => return none

/-! ## 3. Parameters -/

/-- The value of a parameter; several arguments are joined by a character that depends on
what becomes of them. -/
def parameterText (style : Style) (name : String) : ShellM (Option String) := do
  let p ← process
  let join (separator : Option Char) : String :=
    ((separator.map toString).getD "").intercalate p.arguments
  let first := p.separators.toList.head?
  let between := if (p.bindings.lookup "IFS").any (·.value.isSome) then Char.ofNat 0 else ' '
  match name with
  | "$" => return some (toString p.rootNumber)
  | "?" => return some (toString p.status)
  | "#" => return some (toString p.arguments.length)
  | "!" => return p.lastJob.map toString
  | "-" =>
    return some (String.ofList (ShellOption.all.reverse.filterMap fun o =>
      if p.has o then o.letter? else none))
  | "@" | "*" =>
    if style.isQuoted then
      return some (join (if name = "@" && style.isField then some (Char.ofNat 0) else first))
    else return some (join (if style.isField then some between else first))
  | _ =>
    match (if name.toList.all Char.isDigit then name.toNat? else none) with
    | some 0 => return some p.name
    | some n => return p.arguments[n - 1]?
    | none => return p.value? name

/-- Whether the end of a substitution is recorded, and whether as one of several arguments. -/
def recordValue (style : Style) (name : String) (start : Nat) (e : Expanded) : ShellM Expanded := do
  if style.isQuoted then
    if name = "@" && !(← process).arguments.isEmpty then return e.record start true else return e
  else return e.record start false

/-- Fails because a parameter has no value. -/
def failUnset {α : Type} (name message : String) : ShellM α :=
  fail (name ++ ": " ++ message)

/-- Evaluates an expression, and sets the variables that it sets. -/
def evaluate (text : String) : ShellM Int := do
  let p ← process
  let (result, settings) := Arithmetic.evaluate p.value? text
  settings.forM fun (name, n) => setVariable name (toString n.toInt)
  match result with
  | .ok n => return n.toInt
  | .error (.expression message) =>
    fail ("arithmetic expression: " ++ message ++ ": \"" ++ text ++ "\"")
  | .error (.illegalNumber text) => fail ("Illegal number: " ++ text)
  | .error .overflow => throw (.ended (.signalled 8))

/-- What a script writes to its standard output, without the line ends at its end. -/
def outputOf (perform : Perform) (script : Node) : ShellM String := do
  let since := (← get).world.nextNumber
  let i ← newStream (.sink ByteArray.empty false)
  let ending ← runChild perform (fun p => p.attach 1 i) do
    let _ ← perform (.node { isLast := true } (some script))
  runWaiting perform since
  let data : ByteArray ←
    match (← get).world.streams[i]? with
    | some (.sink data _) => pure data
    | _ => pure ByteArray.empty
  setStream i .null
  let status ← statusOf ending
  modifyProcess fun p => { p with substituted := status }
  let text := (data.toList.filter (· != 0)).map Octets.ofByte
  return String.ofList (text.reverse.dropWhile (· == '\n')).reverse

/-! ## 4. Parts -/

/-- What expands a word inside another one, and adds it. -/
abbrev Nested := Style → Word → Expanded → ShellM Expanded

/-- Adds the value of a parameter. -/
def addParameter (nested : Nested) (style : Style) (name : String) (modifier : Modifier)
    (orEmpty : Bool) (word : Word) (e : Expanded) : ShellM Expanded := do
  let start := e.size
  let countOnly : Bool := modifier = .length || modifier = .alternative
  let value ← parameterText (if countOnly then { style with isField := false } else style) name
  let isSet := value.any fun text => !(orEmpty && text == "")
  let inner : Style := { style with isInner := true, hasHome := true }
  let plain (word : Word) : ShellM String := do
    return (← nested { hasHome := true } word {}).text
  let addValue : ShellM Expanded := do
    recordValue style name start (e.addText style (value.getD ""))
  let demandSet : ShellM Unit := do
    if !isSet && (← process).has .nounset then failUnset name "parameter not set"
  let cut (count : List Char → Pattern → Nat × Bool) : ShellM Expanded := do
    demandSet
    match value with
    | none => return e
    | some text =>
      let pattern := patternOf (← nested { hasHome := true, isPattern := true } word {}).glyphs.toList
      let cs := text.toList
      let (n, atStart) := count cs pattern
      let left := if atStart then cs.drop n else cs.take n
      recordValue style name start (e.addText style (String.ofList left))
  match modifier with
  | .malformed => fail "Bad substitution"
  | .value =>
    demandSet
    if isSet then addValue else return e
  | .length =>
    demandSet
    let length := if isSet then (value.getD "").length else 0
    recordValue style name start (e.addText style (toString length))
  | .default => if isSet then addValue else nested inner word e
  | .alternative => if isSet then nested inner word e else recordValue style name start e
  | .assign =>
    if isSet then addValue
    else
      setVariable name (← plain word)
      match ← parameterText style name with
      | some text => recordValue style name start (e.addText style text)
      | none => return e
  | .demand =>
    if isSet then addValue
    else
      let message ← plain word
      let emptyMessage := if orEmpty then "parameter not set or null" else "parameter not set"
      failUnset name (if word.isEmpty then emptyMessage else message)
  | .withoutStart longest => cut fun cs p => (Pattern.fittingStart longest p cs, true)
  | .withoutEnd longest => cut fun cs p => (Pattern.beforeFittingEnd longest p cs, false)

/-- Where the expansion of a word stands. -/
structure Progress where
  /-- The word so far. -/
  expanded : Expanded
  /-- Where its last run of plain characters began. -/
  start : Nat
  /-- Whether quotes are open. -/
  inQuotes : Bool := false

namespace Progress

/-- Ends a run of plain characters, which is split if it is the word of a parameter. -/
def endRun (p : Progress) (style : Style) : Progress :=
  let e := p.expanded
  let isSplit := style.isInner && !style.isQuoted && !p.inQuotes && p.start < e.size
  { p with expanded := if isSplit then e.record p.start false else e, start := e.size }

/-- Goes on after a part of any other kind. -/
def after (p : Progress) (e : Expanded) : Progress :=
  { p with expanded := e, start := e.size }

end Progress

/-- Whether a word goes on with the list of all arguments and a quote mark; what follows. -/
def quotedArguments? : Word → Option Word
  | .parameter "@" .value false [] :: .mark :: rest => some rest
  | _ => none

/-- Expands parts, and adds them.  The bound is the number of parts. -/
def addParts (perform : Perform) (nested : Nested) :
    Nat → Style → Word → Progress → ShellM Expanded
  | 0, style, _, p => return (p.endRun style).expanded
  | _ + 1, style, [], p => return (p.endRun style).expanded
  | n + 1, style, part :: rest, p => do
    let e := p.expanded
    let now := (p.endRun style).expanded
    let goOn (rest : Word) (p : Progress) : ShellM Expanded := addParts perform nested n style rest p
    match part with
    | .char c =>
      let p := { p with expanded := e.push (.plain c) }
      if style.hasHomes && (c == ':' || (c == '=' && !style.isPastName)) then
        let style := if c == '=' then { style with isPastName := true } else style
        let p := p.endRun style
        match ← leadingHome style rest with
        | some (home, rest) =>
          addParts perform nested n style rest (p.after (p.expanded.addText (style.inQuotes true) home))
        | none => addParts perform nested n style rest p
      else goOn rest p
    | .escaped c => goOn rest (p.after (now.addEscaped style c))
    | .mark =>
      match (if p.inQuotes then none else quotedArguments? rest) with
      | some rest =>
        goOn rest (p.after (← addParameter nested (style.inQuotes true) "@" .value false [] now))
      | none => goOn rest { (p.after (now.addMark style)) with inQuotes := !p.inQuotes }
    | .parameter name modifier orEmpty word =>
      goOn rest
        (p.after (← addParameter nested (style.inQuotes p.inQuotes) name modifier orEmpty word now))
    | .output script =>
      let style := style.inQuotes p.inQuotes
      let text ← match script with
        | some c => outputOf perform c
        | none => pure ""
      let e := now.addText style text
      goOn rest (p.after (if style.isQuoted then e else e.record now.size false))
    | .arithmetic word =>
      let style := style.inQuotes p.inQuotes
      let text := (← nested {} word {}).text
      let e := now.addText style (toString (← evaluate text))
      goOn rest (p.after (if style.isQuoted then e else e.record now.size false))

/-- How deep words are nested at most. -/
def nestingLimit : Nat := 2000

/-- Expands a word, and adds it; the bound is the depth of the words in it. -/
def addWord (perform : Perform) : Nat → Nested
  | 0, _, _, _ => exhausted
  | n + 1, style, word, e => do
    let outer := { style with hasHome := false }
    let go (word : Word) (e : Expanded) : ShellM Expanded :=
      addParts perform (addWord perform n) (word.length + 1) outer word { expanded := e, start := e.size }
    let home ← if style.hasHome then leadingHome style word else pure none
    match home with
    | some (home, rest) => go rest (e.addText (style.inQuotes true) home)
    | none => go word e

/-! ## 5. Words as a whole -/

/-- Expands a word. -/
def expandWord (perform : Perform) (style : Style) (word : Word) : ShellM Expanded :=
  addWord perform nestingLimit style word {}

/-- The text of a word that is not split, as in a selection or after a redirection. -/
def expandText (perform : Perform) (word : Word) : ShellM String := do
  return (← expandWord perform { hasHome := true } word).text

/-- The text of an assignment. -/
def expandAssignment (perform : Perform) (word : Word) : ShellM String := do
  return (← expandWord perform { hasHomes := true } word).text

/-- The text of a document. -/
def expandDocument (perform : Perform) (word : Word) : ShellM String := do
  return (← expandWord perform { isQuoted := true } word).text

/-- The pattern of a selection. -/
def expandPattern (perform : Perform) (word : Word) : ShellM Pattern := do
  return patternOf (← expandWord perform { hasHome := true, isPattern := true } word).glyphs.toList

/-- The paths that a field stands for, or its text. -/
def pathsOf (field : List Glyph) : ShellM (List String) := do
  let p ← process
  if p.has .noglob || !Pattern.hasStars (field.filterMap Glyph.char?) then return [textOf field]
  else
    match PathPattern.expand (← files) p.directory (patternOf field) with
    | [] => return [textOf field]
    | paths => return paths

/-- The fields that a word of a command stands for. -/
def expandFields (perform : Perform) (word : Word) : ShellM (List String) := do
  let e ← expandWord perform { isField := true, hasHome := true } word
  let fields := e.split (← process).separators none
  return (← fields.mapM pathsOf).flatten

/-- The fields that words of a command stand for. -/
def expandAll (perform : Perform) (words : List Word) : ShellM (List String) := do
  return (← words.mapM (expandFields perform)).flatten

end CrossBuild.Shell
