import CrossBuild.Shell.Script
import CrossBuild.Shell.Token

/-!
# Reading a script character by character

The state of a reader: what is left of the script, the texts of aliases that
are read in its stead, the characters put back, and what has been read since
the last command.  `Reader.next` is the only way to a character; `nextJoined`
also joins lines that end with a backslash.
-/
namespace CrossBuild.Shell

/-- What comes next in a script. -/
inductive Sign where
  /-- A character. -/
  | char (c : Char)
  /-- The end of the text of an alias. -/
  | aliasEnd
  /-- The end of the script. -/
  | fileEnd
  deriving DecidableEq

namespace Sign

/-- Whether the sign is a character with a property. -/
def satisfies (p : Char → Bool) : Sign → Bool
  | char c => p c
  | _ => false

end Sign

/-- The text of an alias that is being read. -/
structure Inset where
  /-- The name of the alias. -/
  name : String
  /-- What is left of the text. -/
  rest : List Char
  /-- Whether the text ends with a blank, after which another alias may stand. -/
  endsBlank : Bool
  /-- Whether its end has been seen. -/
  isOver : Bool := false
  /-- What was put back before the text was begun. -/
  returned : List Sign

/-- What the next token is checked for. -/
structure Checks where
  /-- Whether line ends before it are passed over. -/
  newlines : Bool := false
  /-- Whether it may be a reserved word. -/
  reserved : Bool := false
  /-- Whether it may be an alias. -/
  aliases : Bool := false
  /-- Whether it ends a document, and so has no substitutions. -/
  endMark : Bool := false

/-- A document of which the command line is read, but not the text. -/
structure PendingDocument where
  /-- Its number. -/
  number : Nat
  /-- The line that ends it. -/
  mark : List Char := []
  /-- Whether tabs at the start of its lines are left out. -/
  withoutTabs : Bool
  /-- Whether it has substitutions. -/
  expands : Bool := true

/-- What is wrong with a script. -/
structure SyntaxError where
  /-- The line. -/
  line : Nat
  /-- The fault, in words. -/
  message : String

/-- The state of a reader. -/
structure Reader where
  /-- What is left of the script. -/
  rest : List Char
  /-- The texts of aliases that are read first, the innermost first. -/
  insets : List Inset := []
  /-- What was put back. -/
  returned : List Sign := []
  /-- The number of the line. -/
  line : Nat := 1
  /-- What the next token is checked for. -/
  checks : Checks := {}
  /-- The last token. -/
  token : Token := .newline
  /-- Whether the last token is read again. -/
  isPutBack : Bool := false
  /-- The last word. -/
  word : Word := []
  /-- Whether the last word has quotes. -/
  isQuoted : Bool := false
  /-- The last redirection; it has no target yet. -/
  redirection : Redirection := .mk 0 (.copy none)
  /-- The documents whose text follows the line. -/
  pending : List PendingDocument := []
  /-- The documents read so far. -/
  documents : Array Word := #[]
  /-- The aliases. -/
  aliases : List (String × String) := []

/-- An operation of a reader. -/
abbrev ReaderM := StateT Reader (Except SyntaxError)

/-- How many steps a reader takes for one command at most. -/
def readingLimit : Nat := 1000000000

/-- Refuses the script. -/
def refuse {α : Type} (message : String) : ReaderM α := do
  throw ⟨(← get).line, message⟩

/-- Refuses the last token, perhaps for another one. -/
def refuseToken {α : Type} (expected : Option Token) : ReaderM α := do
  let found := (← get).token.name ++ " unexpected"
  match expected with
  | none => refuse found
  | some t => refuse (found ++ " (expecting " ++ t.name ++ ")")

namespace Reader

/-- The next sign of the texts of aliases, and else of the script. -/
def nextOf (r : Reader) : List Inset → List Sign → Checks → Sign × Reader
  | insets, s :: returned, checks => (s, { r with insets, returned, checks })
  | [], [], checks =>
    match r.rest with
    | c :: rest => (.char c, { r with rest, insets := [], returned := [], checks })
    | [] => (.fileEnd, { r with insets := [], returned := [], checks })
  | i :: outer, [], checks =>
    match i.rest with
    | c :: rest =>
      (.char c, { r with insets := { i with rest } :: outer, returned := [], checks })
    | [] =>
      if !i.isOver && !i.endsBlank then
        (.aliasEnd, { r with insets := { i with isOver := true } :: outer, returned := [], checks })
      else nextOf r outer i.returned { checks with aliases := checks.aliases || i.endsBlank }

/-- Puts a sign back, to be read again. -/
def unread (r : Reader) (s : Sign) : Reader :=
  { r with returned := s :: r.returned }

/-- Begins a new line. -/
def newLine (r : Reader) : Reader :=
  { r with line := r.line + 1 }

end Reader

/-- Reads one sign. -/
def nextSign : ReaderM Sign :=
  modifyGet fun r => r.nextOf r.insets r.returned r.checks

/-- Puts a sign back. -/
def unread (s : Sign) : ReaderM Unit :=
  modify (·.unread s)

/-- Begins a new line. -/
def newLine : ReaderM Unit :=
  modify (·.newLine)

/-- Reads one sign; a backslash at the end of a line joins it with the next one. -/
def nextJoinedUpTo : Nat → ReaderM Sign
  | 0 => refuse "script too long"
  | n + 1 => do
    let s ← nextSign
    if s = .char '\\' then
      let t ← nextSign
      if t = .char '\n' then
        newLine
        nextJoinedUpTo n
      else
        unread t
        return s
    else return s

/-- Reads one sign, where lines may be joined. -/
def nextJoined : ReaderM Sign :=
  nextJoinedUpTo readingLimit

/-- Reads the characters with a property after a sign; gives them and the sign after
them. -/
def charsWhile (p : Char → Bool) : Nat → Sign → List Char → ReaderM (List Char × Sign)
  | 0, _, _ => refuse "script too long"
  | n + 1, s, taken => do
    match s with
    | .char c =>
      if p c then
        charsWhile p n (← nextJoined) (c :: taken)
      else return (taken.reverse, s)
    | _ => return (taken.reverse, s)

end CrossBuild.Shell
