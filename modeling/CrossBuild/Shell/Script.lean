/-!
# Scripts

What a shell script says, before anything in it is run: words with what is
substituted in them, redirections, and commands put together from commands.

All text is made of octets.  A word is a list of parts; its quote marks stay
in it, because whether a part is quoted decides later whether it is split and
whether it is a pattern.
-/
namespace CrossBuild.Shell

/-- What a substitution does with the value of a parameter. -/
inductive Modifier where
  /-- Takes it. -/
  | value
  /-- Takes its length. -/
  | length
  /-- Takes a word if there is none. -/
  | default
  /-- Sets it to a word if there is none. -/
  | assign
  /-- Fails with a word if there is none. -/
  | demand
  /-- Takes a word if there is one. -/
  | alternative
  /-- Takes it without the shortest or longest start that fits a pattern. -/
  | withoutStart (longest : Bool)
  /-- Takes it without the shortest or longest end that fits a pattern. -/
  | withoutEnd (longest : Bool)
  /-- Fails, because the form is none. -/
  | malformed
  deriving DecidableEq, Inhabited

/-- How the target of a redirection is opened. -/
inductive Opening where
  /-- To read. -/
  | read
  /-- To write from the start, unless files are protected. -/
  | write
  /-- To write from the start. -/
  | overwrite
  /-- To write at the end. -/
  | append
  /-- To read and write. -/
  | readWrite
  deriving DecidableEq, Inhabited

mutual

/-- A part of a word. -/
inductive Part where
  /-- A character. -/
  | char (c : Char)
  /-- A character that stands for itself. -/
  | escaped (c : Char)
  /-- The begin or the end of a quoted stretch. -/
  | mark
  /-- A parameter with a modifier and its word; `orEmpty` says that an empty value counts
  as none. -/
  | parameter (name : String) (modifier : Modifier) (orEmpty : Bool) (word : List Part)
  /-- The output of commands. -/
  | output (script : Option Node)
  /-- The value of an expression. -/
  | arithmetic (word : List Part)

/-- What a descriptor becomes. -/
inductive Target where
  /-- A file. -/
  | file (opening : Opening) (name : List Part)
  /-- What another descriptor is; without one it is closed. -/
  | copy (source : Option Nat)
  /-- What the descriptor is that a word names. -/
  | copyNamed (name : List Part)
  /-- A text in the script itself, by its number; `expands` says that it has
  substitutions. -/
  | document (number : Nat) (expands : Bool)

/-- A redirection of a descriptor. -/
inductive Redirection where
  /-- The descriptor and what it becomes. -/
  | mk (descriptor : Nat) (target : Target)

/-- A command. -/
inductive Node where
  /-- Assignments, the words of a simple command, and its redirections. -/
  | command (line : Nat) (assignments words : List (List Part)) (redirections : List Redirection)
  /-- Commands each of which reads what the one before it writes. -/
  | pipeline (commands : List Node) (inBackground : Bool)
  /-- A command with redirections of its own. -/
  | redirected (line : Nat) (command : Node) (redirections : List Redirection)
  /-- A command that is not waited for. -/
  | background (line : Nat) (command : Node) (redirections : List Redirection)
  /-- A command in a shell of its own. -/
  | subshell (line : Nat) (command : Node) (redirections : List Redirection)
  /-- One command, and another if it succeeds. -/
  | both (first second : Node)
  /-- One command, and another if it fails. -/
  | either (first second : Node)
  /-- One command after the other. -/
  | sequence (first second : Node)
  /-- A command whose success counts as failure. -/
  | negated (command : Node)
  /-- A command that decides between two. -/
  | branch (condition body : Node) (otherwise : Option Node)
  /-- A command repeated while another one succeeds, or until it does. -/
  | loop (isUntil : Bool) (condition body : Node)
  /-- A command for every word; without words, for every argument. -/
  | each (line : Nat) (name : String) (words : Option (List (List Part))) (body : Node)
  /-- The command whose patterns fit a word first. -/
  | select (line : Nat) (word : List Part) (arms : List (List (List Part) × Option Node))
  /-- A function. -/
  | define (line : Nat) (name : String) (body : Node)

end

/-- A word of a script. -/
abbrev Word := List Part

instance : Inhabited Node := ⟨.command 0 [] [] []⟩

/-! ## Names -/

/-- Whether a character may begin a name. -/
def isNameStart (c : Char) : Bool :=
  c.isAlpha || c == '_'

/-- Whether a character may stand in a name. -/
def isNameChar (c : Char) : Bool :=
  c.isAlphanum || c == '_'

/-- The name at the start of a text, which is empty if there is none. -/
def leadingName (cs : List Char) : List Char :=
  match cs with
  | c :: _ => if isNameStart c then cs.takeWhile isNameChar else []
  | [] => []

/-- Whether a text is a name. -/
def isName (s : String) : Bool :=
  s != "" && leadingName s.toList == s.toList

/-- Whether a character names a parameter that the shell itself sets. -/
def isSpecialParameter (c : Char) : Bool :=
  c.isDigit || "!$*#?-@".toList.contains c

/-- The commands of the shell's own that are part of its language: a fault in one of them
ends a script, and no function has the name of one. -/
def specialBuiltins : List String :=
  [".", ":", "break", "continue", "eval", "exec", "exit", "export", "local", "readonly",
    "return", "set", "shift", "times", "trap", "unset"]

/-- Whether a name is one of `specialBuiltins`. -/
def isSpecialBuiltin (name : String) : Bool :=
  specialBuiltins.contains name

/-- The other commands of the shell's own. -/
def plainBuiltins : List String :=
  ["[", "alias", "bg", "cd", "chdir", "command", "echo", "false", "fg", "getopts", "hash", "jobs",
    "kill", "printf", "pwd", "read", "test", "true", "type", "ulimit", "umask", "unalias", "wait"]

/-- Whether a name is that of a command of the shell's own. -/
def isBuiltin (name : String) : Bool :=
  isSpecialBuiltin name || plainBuiltins.contains name

namespace Word

/-- The text of a word that has plain characters only. -/
def plainText? (w : Word) : Option String :=
  (w.mapM fun part =>
    match part with
    | Part.char c => some c
    | _ => none).map String.ofList

/-- The text of a word without its quotes. -/
def unquoted (w : Word) : List Char :=
  w.filterMap fun part =>
    match part with
    | Part.char c | Part.escaped c => some c
    | _ => none

/-- The plain characters that a word begins with. -/
def leadingText : Word → List Char
  | .char c :: rest => c :: leadingText rest
  | _ => []

/-- Whether a word is an assignment: a name, and an equals sign right after it. -/
def isAssignment (w : Word) : Bool :=
  let text := leadingText w
  let name := leadingName text
  !name.isEmpty && (text.drop name.length).head? == some '='

end Word

end CrossBuild.Shell
