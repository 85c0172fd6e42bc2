import CrossBuild.Shell.WordReader

/-!
# Reading commands

Tokens are put together to commands from the left, with one token of
foresight.  A script is read one line of commands at a time
(`Reader.nextCommand`), because what runs first may change how the rest is
read; the documents of a line follow it.

The bound on all definitions is the number of steps, which no script reaches.
-/
namespace CrossBuild.Shell

/-! ## 1. Tokens -/

/-- Passes over the rest of a line. -/
def skipComment : Nat → ReaderM Unit
  | 0 => refuse "script too long"
  | n + 1 => do
    match ← nextSign with
    | .char '\n' => unread (.char '\n')
    | .fileEnd => unread .fileEnd
    | _ => skipComment n

/-- An operator of one or two characters. -/
def readPair (second : Char) (double single : Token) : ReaderM Token := do
  let s ← nextJoined
  if s = .char second then return double
  else
    unread s
    return single

/-- Reads a token without any checks. -/
def readToken (script : ScriptForm → ReaderM (Option Node)) : Nat → ReaderM Token
  | 0 => refuse "script too long"
  | n + 1 => do
    let s ← nextJoined
    match s with
    | .char ' ' | .char '\t' | .aliasEnd => readToken script n
    | .char '#' =>
      skipComment readingLimit
      readToken script n
    | .char '\n' =>
      newLine
      return .newline
    | .fileEnd => return .fileEnd
    | .char '&' => readPair '&' .and .background
    | .char '|' => readPair '|' .or .pipe
    | .char ';' => readPair ';' .endArm .semicolon
    | .char '(' => return .leftParen
    | .char ')' => return .rightParen
    | .char _ => readWord script s .plain .separator

/-- Reads a token, or again the one that was put back. -/
def plainToken (script : ScriptForm → ReaderM (Option Node)) : ReaderM Token := do
  let r ← get
  if r.isPutBack then
    set { r with isPutBack := false }
    return r.token
  else
    let t ← readToken script readingLimit
    modify fun r => { r with token := t }
    return t

/-- Puts the last token back. -/
def putBack : ReaderM Unit :=
  modify fun r => { r with isPutBack := true }

/-- Sets what the next token is checked for. -/
def setChecks (checks : Checks) : ReaderM Unit :=
  modify fun r => { r with checks }

/-- The checks where a command may begin. -/
def commandChecks : Checks := { newlines := true, reserved := true, aliases := true }

/-- Reads the documents of the line that has just ended. -/
def readDocuments (script : ScriptForm → ReaderM (Option Node)) : List PendingDocument → ReaderM Unit
  | [] => return
  | p :: rest => do
    let ending : WordEnd := .line p.mark p.withoutTabs
    let _ ←
      if p.expands then do readWord script (← nextJoined) .double ending
      else do readWord script (← nextSign) .single ending
    modify fun r => { r with documents := r.documents.setIfInBounds p.number r.word }
    readDocuments script rest

/-- Reads the documents that are due. -/
def readDueDocuments (script : ScriptForm → ReaderM (Option Node)) : ReaderM Unit := do
  let due := (← get).pending
  modify fun r => { r with pending := [] }
  readDocuments script due

/-- Passes over line ends. -/
def skipNewlines (script : ScriptForm → ReaderM (Option Node)) : Nat → Token → ReaderM Token
  | 0, _ => refuse "script too long"
  | n + 1, t => do
    if t = .newline then
      readDueDocuments script
      setChecks {}
      skipNewlines script n (← plainToken script)
    else return t

/-- Reads a token with the checks that are set, and those of `checks`. -/
def checkedToken (script : ScriptForm → ReaderM (Option Node)) : Nat → Checks → ReaderM Token
  | 0, _ => refuse "script too long"
  | n + 1, checks => do
    let t ← plainToken script
    let t ← if checks.newlines then skipNewlines script readingLimit t else pure t
    let r ← get
    let checks : Checks :=
      { newlines := checks.newlines || r.checks.newlines
        reserved := checks.reserved || r.checks.reserved
        aliases := checks.aliases || r.checks.aliases
        endMark := checks.endMark || r.checks.endMark }
    setChecks {}
    if t ≠ .word || r.isQuoted then return t
    else
      match r.word.plainText? with
      | none => return t
      | some text =>
        match (if checks.reserved then Reserved.ofText? text else none) with
        | some word =>
          modify fun r => { r with token := .reserved word }
          return .reserved word
        | none =>
          let isActive := r.insets.any fun i => i.name == text
          match (if checks.aliases && !isActive then r.aliases.lookup text else none) with
          | none => return t
          | some value =>
            if value != "" then
              modify fun r =>
                let cs := value.toList
                let inset : Inset :=
                  { name := text, rest := cs, returned := r.returned
                    endsBlank := cs.getLast? == some ' ' || cs.getLast? == some '\t' }
                { r with insets := inset :: r.insets, returned := [] }
            checkedToken script n checks

/-! ## 2. Commands -/

/-- How a list of commands may end. -/
inductive ListForm where
  /-- With the line. -/
  | line
  /-- Before a token that ends lists, after at least one command. -/
  | block
  /-- Before a token that ends lists. -/
  | maybeEmpty
  deriving DecidableEq

/-- What a line of a script is. -/
inductive Line where
  /-- A command, or none. -/
  | command (c : Option Node)
  /-- The end of the script. -/
  | fileEnd

/-- A command that is not waited for. -/
def Node.inBackground : Node → Node
  | .pipeline commands _ => .pipeline commands true
  | .redirected line c redirections => .background line c redirections
  | c => .background 0 c []

/-- Two commands one after the other, of which the first may be missing. -/
def Node.followedBy (first : Option Node) (second : Node) : Node :=
  match first with
  | none => second
  | some first => .sequence first second

/-- The target of a redirection of which the last word is the name. -/
def namedTarget (target : Target) : ReaderM Target := do
  let r ← get
  match target with
  | .file opening _ => return .file opening r.word
  | .document number _ =>
    modify fun r =>
      { r with pending := r.pending.map fun p =>
          if p.number = number then
            { p with mark := r.word.unquoted, expands := !r.isQuoted }
          else p }
    return .document number (!r.isQuoted)
  | .copy _ | .copyNamed _ =>
    match r.word with
    | [.char c] =>
      if c.isDigit then return .copy (some (c.toNat - '0'.toNat))
      else if c == '-' then return .copy none
      else return .copyNamed r.word
    | word => return .copyNamed word

mutual

/-- Reads the script inside a word. -/
def readScript : Nat → ScriptForm → ReaderM (Option Node)
  | 0, _ => refuse "script too long"
  | n + 1, form => do
    let before ← get
    match form with
    | .parens =>
      set { before with pending := [] }
      let (c, _) ← readList n .maybeEmpty
      if (← readChecked n) ≠ .rightParen then refuseToken (some .rightParen)
      let inner ← get
      set { inner with rest := [], insets := [], returned := [] }
      readDueDocuments (readScript n)
      modify fun r =>
        { inner with documents := r.documents, pending := before.pending }
      return c
    | .backquotes text =>
      set { before with
        rest := text, insets := [], returned := [], pending := [], line := 1 }
      let (c, _) ← readList n .maybeEmpty
      readDueDocuments (readScript n)
      modify fun r =>
        { r with
          rest := before.rest, insets := before.insets, returned := before.returned
          line := before.line, pending := before.pending, isPutBack := false }
      return c

/-- Reads a token with the checks that are set. -/
def readChecked : Nat → ReaderM Token
  | 0 => refuse "script too long"
  | n + 1 => do checkedToken (readScript n) readingLimit (← get).checks

/-- Reads a list of commands; the second value says whether the script ended before any. -/
def readList : Nat → ListForm → ReaderM (Option Node × Bool)
  | 0, _ => refuse "script too long"
  | n + 1, form => readListFrom n form (form = .maybeEmpty) none

/-- Reads a list of commands that continues another one. -/
def readListFrom : Nat → ListForm → (mayEnd : Bool) → Option Node → ReaderM (Option Node × Bool)
  | 0, _, _, _ => refuse "script too long"
  | n + 1, form, mayEnd, before => do
    setChecks { commandChecks with newlines := form ≠ .line }
    let t ← readChecked n
    match t with
    | .newline =>
      readDueDocuments (readScript n)
      return (before, false)
    | .fileEnd =>
      readDueDocuments (readScript n)
      modify fun r => { r with token := .fileEnd, isPutBack := true }
      return (before, before.isNone)
    | _ =>
      putBack
      if mayEnd && form ≠ .line && t.endsList then return (before, false)
      else
        let c ← readAndOr n
        let t ← readChecked n
        let c := if t = .background then c.inBackground else c
        let whole := Node.followedBy before c
        match t with
        | .fileEnd =>
          readDueDocuments (readScript n)
          modify fun r => { r with token := .fileEnd, isPutBack := true }
          return (some whole, false)
        | .newline =>
          putBack
          readListFrom n form true (some whole)
        | .background | .semicolon => readListFrom n form true (some whole)
        | _ =>
          if form = .line then refuseToken none
          else
            putBack
            return (some whole, false)

/-- Reads a list of commands that has at least one, unless the script ends. -/
def readBlock : Nat → ReaderM Node
  | 0 => refuse "script too long"
  | n + 1 => do
    match ← readList n .block with
    | (some c, _) => return c
    | (none, _) =>
      -- The script has ended; whatever token is due next is missed there.
      return default

/-- Reads pipelines that depend on one another. -/
def readAndOr : Nat → ReaderM Node
  | 0 => refuse "script too long"
  | n + 1 => do readAndOrFrom n (← readPipeline n)

/-- Reads the pipelines that depend on one read before. -/
def readAndOrFrom : Nat → Node → ReaderM Node
  | 0, _ => refuse "script too long"
  | n + 1, first => do
    let t ← readChecked n
    if t = .and || t = .or then
      setChecks commandChecks
      let second ← readPipeline n
      readAndOrFrom n (if t = .and then .both first second else .either first second)
    else
      putBack
      return first

/-- Reads a pipeline. -/
def readPipeline : Nat → ReaderM Node
  | 0 => refuse "script too long"
  | n + 1 => do
    let isNegated : Bool := (← readChecked n) = .reserved .not
    if isNegated then setChecks { reserved := true, aliases := true } else putBack
    let first ← readCommand n
    let c ←
      if (← readChecked n) = .pipe then do
        let others ← readStages n []
        pure (Node.pipeline (first :: others) false)
      else pure first
    putBack
    return if isNegated then .negated c else c

/-- Reads the commands of a pipeline after the first. -/
def readStages : Nat → List Node → ReaderM (List Node)
  | 0, _ => refuse "script too long"
  | n + 1, before => do
    setChecks commandChecks
    let c ← readCommand n
    if (← readChecked n) = .pipe then readStages n (c :: before)
    else return (c :: before).reverse

/-- Reads a command. -/
def readCommand : Nat → ReaderM Node
  | 0 => refuse "script too long"
  | n + 1 => do
    let line := (← get).line
    let expect (t : Token) : ReaderM Unit := do
      if (← readChecked n) ≠ t then refuseToken (some t)
    match ← readChecked n with
    | .word | .redirection =>
      putBack
      readSimple n
    | .reserved .if =>
      let condition ← readBlock n
      expect (.reserved .then)
      let body ← readBlock n
      let otherwise ← readOtherwise n
      expect (.reserved .fi)
      readCommandEnd n line (.branch condition body otherwise)
    | .reserved .while => readLoop n line false
    | .reserved .until => readLoop n line true
    | .reserved .for =>
      let t ← readChecked n
      let r ← get
      match (if t = .word && !r.isQuoted then r.word.plainText? else none) with
      | none => refuse "Bad for loop variable"
      | some name =>
        if !isName name then refuse "Bad for loop variable"
        setChecks commandChecks
        let words ←
          if (← readChecked n) = .reserved .in then do
            let words ← readForWords n []
            let t := (← get).token
            if t ≠ .newline && t ≠ .semicolon then refuseToken none
            pure (some words)
          else do
            if (← get).token ≠ .semicolon then putBack
            pure none
        setChecks commandChecks
        expect (.reserved .do)
        let body ← readBlock n
        expect (.reserved .done)
        readCommandEnd n line (.each line name words body)
    | .reserved .case =>
      expect .word
      let word := (← get).word
      setChecks commandChecks
      expect (.reserved .in)
      setChecks { newlines := true, reserved := true }
      let t ← readChecked n
      let arms ← readArms n t []
      readCommandEnd n line (.select line word arms)
    | .leftParen =>
      let body ← readBlock n
      expect .rightParen
      readCommandEnd n line (.subshell line body [])
    | .reserved .leftBrace =>
      let body ← readBlock n
      expect (.reserved .rightBrace)
      readCommandEnd n line body
    | _ => refuseToken none

/-- Reads a loop from its condition on. -/
def readLoop : Nat → (line : Nat) → (isUntil : Bool) → ReaderM Node
  | 0, _, _ => refuse "script too long"
  | n + 1, line, isUntil => do
    let condition ← readBlock n
    if (← readChecked n) ≠ .reserved .do then refuseToken (some (.reserved .do))
    let body ← readBlock n
    if (← readChecked n) ≠ .reserved .done then refuseToken (some (.reserved .done))
    readCommandEnd n line (.loop isUntil condition body)

/-- Reads what is done if a condition fails. -/
def readOtherwise : Nat → ReaderM (Option Node)
  | 0 => refuse "script too long"
  | n + 1 => do
    match ← readChecked n with
    | .reserved .elif =>
      let condition ← readBlock n
      if (← readChecked n) ≠ .reserved .then then refuseToken (some (.reserved .then))
      let body ← readBlock n
      let otherwise ← readOtherwise n
      return some (.branch condition body otherwise)
    | .reserved .else => return some (← readBlock n)
    | _ =>
      putBack
      return none

/-- Reads the words of a loop. -/
def readForWords : Nat → List Word → ReaderM (List Word)
  | 0, _ => refuse "script too long"
  | n + 1, before => do
    if (← readChecked n) = .word then readForWords n ((← get).word :: before)
    else return before.reverse

/-- Reads the arms of a selection, from a token on. -/
def readArms : Nat → Token → List (List Word × Option Node) →
    ReaderM (List (List Word × Option Node))
  | 0, _, _ => refuse "script too long"
  | n + 1, t, before => do
    if t = .reserved .esac then return before.reverse
    else
      if t = .leftParen then
        let _ ← readChecked n
      let patterns ← readPatterns n []
      if (← get).token ≠ .rightParen then refuseToken (some .rightParen)
      let (body, _) ← readList n .maybeEmpty
      let arms := (patterns, body) :: before
      setChecks { newlines := true, reserved := true }
      let t ← readChecked n
      if t = .reserved .esac then return arms.reverse
      else if t ≠ .endArm then refuseToken (some .endArm)
      else
        setChecks { newlines := true, reserved := true }
        let t ← readChecked n
        readArms n t arms

/-- Reads the patterns of an arm, of which the last word is the first. -/
def readPatterns : Nat → List Word → ReaderM (List Word)
  | 0, _ => refuse "script too long"
  | n + 1, before => do
    let patterns := (← get).word :: before
    if (← readChecked n) = .pipe then
      let _ ← readChecked n
      readPatterns n patterns
    else return patterns.reverse

/-- Reads the redirections after a command that is not simple. -/
def readCommandEnd : Nat → (line : Nat) → Node → ReaderM Node
  | 0, _, _ => refuse "script too long"
  | n + 1, line, c => do
    setChecks { reserved := true, aliases := true }
    let redirections ← readRedirections n []
    match redirections, c with
    | [], _ => return c
    | _, .subshell line body _ => return .subshell line body redirections
    | _, _ => return .redirected line c redirections

/-- Reads redirections. -/
def readRedirections : Nat → List Redirection → ReaderM (List Redirection)
  | 0, _ => refuse "script too long"
  | n + 1, before => do
    if (← readChecked n) = .redirection then
      readRedirections n ((← readTarget n) :: before)
    else
      putBack
      return before.reverse

/-- Reads the target of a redirection. -/
def readTarget : Nat → ReaderM Redirection
  | 0 => refuse "script too long"
  | n + 1 => do
    let .mk descriptor target := (← get).redirection
    match target with
    | .document .. => setChecks { endMark := true }
    | _ => pure ()
    if (← readChecked n) ≠ .word then refuseToken none
    return .mk descriptor (← namedTarget target)

/-- Reads a simple command, or a function. -/
def readSimple : Nat → ReaderM Node
  | 0 => refuse "script too long"
  | n + 1 => do readSimpleFrom n (← get).line true [] [] []

/-- Reads a simple command that continues one read before; `mayAssign` says that no word
came yet that is no assignment. -/
def readSimpleFrom : Nat → (line : Nat) → (mayAssign : Bool) → List Word → List Word →
    List Redirection → ReaderM Node
  | 0, _, _, _, _, _ => refuse "script too long"
  | n + 1, line, mayAssign, assignments, words, redirections => do
    setChecks { aliases := mayAssign }
    let finish : ReaderM Node := do
      putBack
      return .command line assignments.reverse words.reverse redirections.reverse
    match ← readChecked n with
    | .word =>
      let word := (← get).word
      if mayAssign && word.isAssignment then
        readSimpleFrom n line true (word :: assignments) words redirections
      else readSimpleFrom n line false assignments (word :: words) redirections
    | .redirection =>
      let redirection ← readTarget n
      readSimpleFrom n line mayAssign assignments words (redirection :: redirections)
    | .leftParen =>
      match assignments, words, redirections with
      | [], [word], [] =>
        if (← readChecked n) ≠ .rightParen then refuseToken (some .rightParen)
        match word.plainText? with
        | none => refuse "Bad function name"
        | some name =>
          if !isName name || isSpecialBuiltin name then refuse "Bad function name"
          let line := (← get).line
          setChecks commandChecks
          return .define line name (← readCommand n)
      | _, _, _ => finish
    | _ => finish

end

namespace Reader

/-- A reader of a script. -/
def ofText (text : String) : Reader :=
  { rest := text.toList }

/-- Reads the next line of commands. -/
def nextCommand (r : Reader) : Except SyntaxError (Line × Reader) := do
  let start := { r with checks := {}, isPutBack := false, pending := [] }
  let ((c, isOver), r) ← (readList readingLimit .line).run start
  return (if isOver then .fileEnd else .command c, r)

/-- Whether the script has been read to its end. -/
def isAtEnd (r : Reader) : Bool :=
  r.isPutBack && r.token = .fileEnd

/-- Reads a text as if it stood in double quotes. -/
def quotedText (r : Reader) : Except SyntaxError Word := do
  let operation : ReaderM Token := do
    readWord (readScript readingLimit) (← nextJoined) .double .text
  let (_, r) ← operation.run r
  return r.word

end Reader

end CrossBuild.Shell
