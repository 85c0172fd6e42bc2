import CrossBuild.Shell.Reader

/-!
# Reading words

A word ends at the first character that separates words and is not quoted or
inside a substitution; a document ends at its last line.  What a character
means depends on what is open around it: a quoted stretch, an expression, or
the word of a parameter, each of which may be open within the others.

The scripts inside words are read by an argument of these definitions, since
they are made of words in turn.
-/
namespace CrossBuild.Shell

/-! ## 1. What characters mean -/

/-- The ways to read characters. -/
inductive Reading where
  | plain | double | single | arithmetic
  deriving DecidableEq

/-- What a character means. -/
inductive Meaning where
  /-- The end of a line. -/
  | newline
  /-- Itself. -/
  | ordinary
  /-- Itself, and it is marked as such where it might be taken for a pattern. -/
  | literal
  /-- The next character is quoted. -/
  | backslash
  /-- A stretch in single quotes begins. -/
  | openSingle
  /-- A stretch in double quotes begins. -/
  | openDouble
  /-- The quoted stretch ends. -/
  | closeQuote
  /-- The output of commands. -/
  | backquote
  /-- A parameter. -/
  | dollar
  /-- The end of the word of a parameter. -/
  | closeBrace
  /-- An opening parenthesis of an expression. -/
  | openParen
  /-- A closing parenthesis of an expression, or its end. -/
  | closeParen
  /-- Nothing. -/
  | ignored
  /-- The end of the script. -/
  | fileEnd
  /-- The end of the word. -/
  | separator

/-- Whether an octet is one of those that are always marked as literal. -/
def isMarkedOctet (c : Char) : Bool :=
  0x81 ≤ c.toNat && c.toNat ≤ 0x88

/-- The characters that might be taken for a pattern or for a user's directory. -/
def patternChars : List Char := "!*?[=~:/-]".toList

/-- What a sign means, by the way of reading. -/
def meaningOf (reading : Reading) : Sign → Meaning
  | .fileEnd => .fileEnd
  | .aliasEnd => if reading = .plain then .separator else .ignored
  | .char c =>
    if c == '\n' then .newline
    else if isMarkedOctet c then .literal
    else
      match reading with
      | .single =>
        if c == '\'' then .closeQuote
        else if patternChars.contains c || c == '\\' then .literal else .ordinary
      | .plain =>
        match c with
        | '\\' => .backslash
        | '\'' => .openSingle
        | '"' => .openDouble
        | '\x60' => .backquote
        | '$' => .dollar
        | '\x7d' => .closeBrace
        | _ => if "<>();&| \t".toList.contains c then .separator else .ordinary
      | .double =>
        match c with
        | '\\' => .backslash
        | '"' => .closeQuote
        | '\x60' => .backquote
        | '$' => .dollar
        | '\x7d' => .closeBrace
        | _ => if patternChars.contains c then .literal else .ordinary
      | .arithmetic =>
        match c with
        | '\\' => .backslash
        | '\x60' => .backquote
        | '$' => .dollar
        | '\x7d' => .closeBrace
        | '(' => .openParen
        | ')' => .closeParen
        | _ => .ordinary

/-! ## 2. The state of a word -/

/-- How the characters at one level are read. -/
structure Level where
  /-- The way of reading. -/
  reading : Reading
  /-- Whether the level counts as quoted. -/
  inDouble : Bool := false
  /-- Whether quotes are open inside the word of a parameter that is quoted itself. -/
  inInner : Bool := false
  /-- The number of words of parameters open at this level. -/
  openWords : Nat := 0
  /-- The number of those of them that are quoted. -/
  quotedWords : Nat := 0
  /-- Whether the level was begun for the word of a parameter. -/
  isOfWord : Bool := false
  /-- The number of parentheses open. -/
  parens : Nat := 0

/-- What a part will be that is still open. -/
inductive OpenPart where
  /-- A parameter whose word is read. -/
  | parameter (name : String) (modifier : Modifier) (orEmpty : Bool)
  /-- An expression. -/
  | arithmetic

/-- A word that is being read. -/
structure Draft where
  /-- The level of reading. -/
  level : Level
  /-- The levels around it, the innermost first. -/
  outer : List Level := []
  /-- The parts read so far at this place, the last one first. -/
  parts : Word := []
  /-- What is open around it, with the parts before it. -/
  enclosing : List (OpenPart × Word) := []
  /-- Whether anything was quoted. -/
  isQuoted : Bool := false

/-- Where a word ends. -/
inductive WordEnd where
  /-- At a separator. -/
  | separator
  /-- Before a line. -/
  | line (mark : List Char) (withoutTabs : Bool)
  /-- At the end of the text. -/
  | text

namespace Draft

/-- Adds a part. -/
def add (d : Draft) (p : Part) : Draft :=
  { d with parts := p :: d.parts }

/-- Adds a character. -/
def addChar (d : Draft) (c : Char) : Draft :=
  d.add (.char c)

/-- Changes the level. -/
def withLevel (d : Draft) (f : Level → Level) : Draft :=
  { d with level := f d.level }

/-- Leaves the level. -/
def leaveLevel (d : Draft) : Draft :=
  match d.outer with
  | l :: outer => { d with level := l, outer }
  | [] => d

/-- Begins a part that holds a word of its own. -/
def open_ (d : Draft) (p : OpenPart) : Draft :=
  { d with parts := [], enclosing := (p, d.parts) :: d.enclosing }

/-- Ends the part that was begun last. -/
def close (d : Draft) : Draft :=
  match d.enclosing with
  | (.parameter name modifier orEmpty, before) :: enclosing =>
    { d with parts := .parameter name modifier orEmpty d.parts.reverse :: before, enclosing }
  | (.arithmetic, before) :: enclosing =>
    { d with parts := .arithmetic d.parts.reverse :: before, enclosing }
  | [] => d

/-- Begins an expression. -/
def openArithmetic (d : Draft) : Draft :=
  { d.open_ .arithmetic with
    level := { reading := .arithmetic, inDouble := true }
    outer := d.level :: d.outer }

/-- Begins the word of a parameter.  Words of patterns are read as if they were not quoted. -/
def openWord (d : Draft) (name : String) (modifier : Modifier) (orEmpty : Bool) : Draft :=
  let reading : Reading :=
    match modifier with
    | .withoutStart _ | .withoutEnd _ => .plain
    | _ => if d.level.reading = .arithmetic then .double else d.level.reading
  let d := d.open_ (.parameter name modifier orEmpty)
  let d :=
    if reading ≠ d.level.reading || d.level.inInner then
      { d with
        level := { reading, inDouble := reading ≠ .plain, isOfWord := true }
        outer := d.level :: d.outer }
    else d
  d.withLevel fun l =>
    { l with
      openWords := l.openWords + 1
      quotedWords := if l.inDouble then l.quotedWords + 1 else l.quotedWords }

/-- Ends the word of a parameter. -/
def closeWord (d : Draft) : Draft :=
  let d := d.close
  if d.level.openWords = 1 && d.level.isOfWord then d.leaveLevel
  else
    d.withLevel fun l =>
      { l with openWords := l.openWords - 1, quotedWords := l.quotedWords - 1 }

/-- Adds a quote mark, which documents do not have. -/
def addMark (d : Draft) (ending : WordEnd) : Draft :=
  match ending with
  | .separator => d.add .mark
  | _ => d

/-- Adds the mark of a double quote. -/
def addDoubleMark (d : Draft) (ending : WordEnd) : Draft :=
  (d.withLevel fun l => if l.openWords = 0 then l else { l with inInner := !l.inInner }).addMark
    ending

/-- Adds a character that is marked as standing for itself, where patterns matter. -/
def addLiteral (d : Draft) (ending : WordEnd) (c : Char) : Draft :=
  match ending with
  | .separator => d.add (.escaped c)
  | _ => if d.level.inDouble then d.add (.escaped c) else d.addChar c

/-- Adds a character that a backslash stands before. -/
def addEscape (d : Draft) (ending : WordEnd) (c : Char) : Draft :=
  let inDocument : Bool := match ending with
    | .separator => false
    | _ => true
  let noWord := d.level.openWords == 0
  let keepsBackslash := d.level.inDouble && !(c == '\\' || c == '\x60' || c == '$') &&
    (c != '"' || (inDocument && noWord)) && (c != '\x7d' || noWord)
  let d := if keepsBackslash then d.add (.escaped '\\') else d
  { d.add (.escaped c) with isQuoted := true }

/-- Ends a quoted stretch, or adds the character if that is none here. -/
def closeQuote (d : Draft) (ending : WordEnd) (c : Char) : Draft :=
  let inDocument : Bool := match ending with
    | .separator => false
    | _ => true
  if inDocument && d.level.openWords = 0 then d.addChar c
  else
    let d := d.withLevel fun l =>
      if l.quotedWords = 0 then { l with reading := .plain, inDouble := false } else l
    let d := { d with isQuoted := true }
    if c == '"' then d.addDoubleMark ending else d.addMark ending

end Draft

/-! ## 3. Documents -/

/-- Skips tabs. -/
def skipTabs : Nat → Sign → ReaderM Sign
  | 0, s => return s
  | n + 1, s => do if s = .char '\t' then skipTabs n (← nextSign) else return s

/-- Compares what comes with a text; gives the sign after it, or puts all back. -/
def matchText : List Char → Sign → List Sign → ReaderM (Option Sign × Sign)
  | [], s, _ => return (some s, s)
  | c :: cs, s, seen => do
    if s = .char c then matchText cs (← nextSign) (s :: seen)
    else
      match (s :: seen).reverse with
      | first :: others =>
        modify fun r => { r with returned := others ++ r.returned }
        return (none, first)
      | [] => return (none, s)

/-- At the start of a line: the end of the script if the document ends here. -/
def checkLine (ending : WordEnd) (s : Sign) : ReaderM Sign := do
  match ending with
  | .line mark withoutTabs =>
    let s ← if withoutTabs then skipTabs readingLimit s else pure s
    match ← matchText mark s [] with
    | (none, s) => return s
    | (some after, _) =>
      if after = .char '\n' || after = .fileEnd then
        newLine
        return .fileEnd
      else
        match mark with
        | [] => return after
        | c :: cs =>
          modify fun r => { r with returned := cs.map Sign.char ++ after :: r.returned }
          return .char c
  | _ => return s

/-! ## 4. Parameters -/

/-- The modifier that a character stands for. -/
def modifierOf? (c : Char) : Option Modifier :=
  match c with
  | '\x7d' => some .value
  | '-' => some .default
  | '+' => some .alternative
  | '?' => some .demand
  | '=' => some .assign
  | _ => none

/-- Reads what follows the name of a parameter in braces. -/
def readModifier (d : Draft) (name : String) (after : Sign) : ReaderM Draft := do
  match after with
  | .char ':' =>
    match ← nextJoined with
    | .char c => return d.openWord name ((modifierOf? c).getD .malformed) true
    | _ => return d.openWord name .malformed true
  | .char '%' | .char '#' =>
    let second ← nextJoined
    let longest : Bool := second == after
    if !longest then unread second
    return d.openWord name (if after = .char '#' then .withoutStart longest else .withoutEnd longest)
      false
  | .char '\x7d' => return d.add (.parameter name .value false [])
  | .char c => return d.openWord name ((modifierOf? c).getD .malformed) false
  | _ => return d.openWord name .malformed false

/-- Reads what follows the name of a parameter whose length is taken. -/
def readLengthEnd (d : Draft) (name : String) (after : Sign) : ReaderM Draft := do
  unread after
  return d.openWord name (if after = .char '\x7d' then .length else .malformed) false

/-- Reads the name of a parameter that begins with a letter or a digit. -/
def readName (s : Sign) : ReaderM (String × Sign) := do
  let p : Char → Bool := if s.satisfies isNameStart then isNameChar else Char.isDigit
  let (name, after) ← charsWhile p readingLimit s []
  return (String.ofList name, after)

/-- Reads a parameter in braces, from the sign after the brace. -/
def readBraced (d : Draft) (first : Sign) : ReaderM Draft := do
  if first.satisfies isNameChar then
    let (name, after) ← readName first
    readModifier d name after
  else if first = .char '\x7d' then
    unread first
    return d.openWord "" .malformed false
  else
    let second ← nextJoined
    if first = .char '#' then
      if second.satisfies isNameChar then
        let (name, after) ← readName second
        readLengthEnd d name after
      else
        let third ← nextJoined
        if second = .char '\x7d' || third ≠ .char '\x7d' then
          unread third
          readModifier d "#" second
        else if second.satisfies isSpecialParameter then
          match second with
          | .char c => readLengthEnd d (toString c) third
          | _ => return d
        else
          unread third
          return d.openWord "" .malformed false
    else
      match first with
      | .char c =>
        if isSpecialParameter c then readModifier d (toString c) second
        else
          unread second
          return d.openWord "" .malformed false
      | _ =>
        unread second
        return d.openWord "" .malformed false

/-- Reads a parameter without braces, from its first sign. -/
def readBare (d : Draft) (first : Sign) : ReaderM Draft := do
  match first with
  | .char c =>
    if isNameStart c then
      let (name, after) ← charsWhile isNameChar readingLimit first []
      unread after
      return d.add (.parameter (String.ofList name) .value false [])
    else
      unread (← nextJoined)
      return d.add (.parameter (toString c) .value false [])
  | _ => return d

/-! ## 5. Words -/

/-- How a script inside a word is written. -/
inductive ScriptForm where
  /-- Between parentheses. -/
  | parens
  /-- Between back quotes; its text, and the reader goes on after it. -/
  | backquotes (text : List Char)

/-- Reads the text between back quotes. -/
def backquoted (inDouble : Bool) : Nat → List Char → ReaderM (List Char)
  | 0, _ => refuse "script too long"
  | n + 1, text => do
    match ← nextJoined with
    | .char '\x60' => return text.reverse
    | .char '\\' =>
      match ← nextSign with
      | .char c =>
        let keeps := !(c == '\\' || c == '\x60' || c == '$') && (!inDouble || c != '"')
        backquoted inDouble n (if keeps then c :: '\\' :: text else c :: text)
      | s =>
        unread s
        backquoted inDouble n ('\\' :: text)
    | .char '\n' =>
      newLine
      backquoted inDouble n ('\n' :: text)
    | .char c => backquoted inDouble n (c :: text)
    | .aliasEnd => backquoted inDouble n text
    | .fileEnd => refuse "EOF in backquote substitution"

/-- Reads what follows a dollar sign. -/
def readDollar (script : ScriptForm → ReaderM (Option Node)) (d : Draft) : ReaderM Draft := do
  let s ← nextJoined
  let isStart : Bool := s.satisfies fun c =>
    c == '(' || c == '\x7b' || isNameStart c || isSpecialParameter c
  if (← get).checks.endMark || !isStart then
    unread s
    return d.addChar '$'
  else if s = .char '(' then
    let t ← nextJoined
    if t = .char '(' then return d.openArithmetic
    else
      unread t
      return d.add (.output (← script .parens))
  else if s = .char '\x7b' then readBraced d (← nextJoined)
  else readBare d s

/-- The next sign, where lines may be joined unless single quotes are open. -/
def nextIn (d : Draft) : ReaderM Sign :=
  if d.level.reading = .single then nextSign else nextJoined

/-- Reads the characters of a word from a sign on; gives the sign that ends it. -/
def readParts (script : ScriptForm → ReaderM (Option Node)) (ending : WordEnd) :
    Nat → Sign → Draft → ReaderM (Sign × Draft)
  | 0, _, _ => refuse "script too long"
  | n + 1, s, d => do
    let c : Char := match s with
      | .char c => c
      | _ => ' '
    match meaningOf d.level.reading s with
    | .newline =>
      if d.level.reading = .plain && d.level.openWords = 0 then return (s, d)
      else
        newLine
        let d := d.addChar '\n'
        readParts script ending n (← checkLine ending (← nextIn d)) d
    | .fileEnd => return (s, d)
    | .separator =>
      if d.level.openWords = 0 then return (s, d)
      else
        let d := if s = .aliasEnd then d else d.addChar c
        readParts script ending n (← nextIn d) d
    | .ordinary =>
      let d := d.addChar c
      readParts script ending n (← nextIn d) d
    | .literal =>
      let d := d.addLiteral ending c
      readParts script ending n (← nextIn d) d
    | .ignored => readParts script ending n (← nextIn d) d
    | .backslash =>
      match ← nextSign with
      | .char c =>
        let d := d.addEscape ending c
        readParts script ending n (← nextIn d) d
      | t =>
        unread t
        let d := d.add (.escaped '\\')
        readParts script ending n (← nextIn d) d
    | .openSingle =>
      let d := (d.withLevel fun l => { l with reading := .single }).addMark ending
      readParts script ending n (← nextIn d) d
    | .openDouble =>
      let d := (d.withLevel fun l =>
        { l with reading := .double, inDouble := true }).addDoubleMark ending
      readParts script ending n (← nextIn d) d
    | .closeQuote =>
      let d := d.closeQuote ending c
      readParts script ending n (← nextIn d) d
    | .dollar =>
      let d ← readDollar script d
      readParts script ending n (← nextIn d) d
    | .closeBrace =>
      let d := if d.level.openWords = 0 || d.level.inInner then d.addChar c else d.closeWord
      readParts script ending n (← nextIn d) d
    | .openParen =>
      let d := (d.withLevel fun l => { l with parens := l.parens + 1 }).addChar c
      readParts script ending n (← nextIn d) d
    | .closeParen =>
      if d.level.parens = 0 then
        let t ← nextJoined
        if t = .char ')' then
          let d := d.close.leaveLevel
          readParts script ending n (← nextIn d) d
        else
          unread t
          let d := d.addChar c
          readParts script ending n (← nextIn d) d
      else
        let d := (d.withLevel fun l => { l with parens := l.parens - 1 }).addChar c
        readParts script ending n (← nextIn d) d
    | .backquote =>
      if (← get).checks.endMark then
        let d := d.addChar c
        readParts script ending n (← nextIn d) d
      else
        let text ← backquoted d.level.inDouble readingLimit []
        let d := d.add (.output (← script (.backquotes text)))
        readParts script ending n (← nextIn d) d

/-- Reads the operator of a redirection, from its first character. -/
def readOperator (s : Sign) : ReaderM (Nat × Target) := do
  let t ← nextJoined
  if s = .char '>' then
    match t with
    | .char '>' => return (1, .file .append [])
    | .char '|' => return (1, .file .overwrite [])
    | .char '&' => return (1, .copy none)
    | _ =>
      unread t
      return (1, .file .write [])
  else
    match t with
    | .char '<' =>
      let u ← nextJoined
      let withoutTabs : Bool := u == .char '-'
      if !withoutTabs then unread u
      modifyGet fun r =>
        let number := r.documents.size
        ((0, .document number true),
          { r with
            documents := r.documents.push []
            pending := r.pending ++ [{ number, withoutTabs }] })
    | .char '&' => return (0, .copy none)
    | .char '>' => return (0, .file .readWrite [])
    | _ =>
      unread t
      return (0, .file .read [])

/-- Reads a word, or a redirection if a digit or nothing stands before its operator. -/
def readWord (script : ScriptForm → ReaderM (Option Node)) (first : Sign) (reading : Reading)
    (ending : WordEnd) : ReaderM Token := do
  let first ← checkLine ending first
  let (s, d) ← readParts script ending readingLimit first
    { level := { reading, inDouble := reading = .double } }
  let isPlainWord : Bool := match ending with
    | .separator => true
    | _ => false
  if d.level.reading = .arithmetic then refuse "Missing '))'"
  if d.level.reading ≠ .plain && isPlainWord then refuse "Unterminated quoted string"
  if d.level.openWords ≠ 0 then refuse "Missing '\x7d'"
  let word := d.parts.reverse
  let digit? : Option (Option Char) := match word with
    | [] => some none
    | [.char c] => if c.isDigit then some (some c) else none
    | _ => none
  match digit? with
  | some digit =>
    if isPlainWord && !d.isQuoted && (s = .char '<' || s = .char '>') then
      let (descriptor, target) ← readOperator s
      let descriptor := (digit.map fun c => c.toNat - '0'.toNat).getD descriptor
      modify fun r => { r with redirection := .mk descriptor target, token := .redirection }
      return .redirection
  | none => pure ()
  if isPlainWord then unread s
  modify fun r => { r with word, isQuoted := d.isQuoted, token := .word }
  return .word

end CrossBuild.Shell
