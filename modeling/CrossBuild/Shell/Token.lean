/-!
# Tokens

What a script is made of above its characters: operators, line ends, words,
and the words that are reserved where a command may begin.  Complaints name
tokens by `Token.name`.
-/
namespace CrossBuild.Shell

/-- A reserved word. -/
inductive Reserved where
  | not | case | do | done | elif | else | esac | fi | for | if | in | then | until | while
  | leftBrace | rightBrace
  deriving DecidableEq

namespace Reserved

/-- All reserved words. -/
def all : List Reserved :=
  [.not, .case, .do, .done, .elif, .else, .esac, .fi, .for, .if, .in, .then, .until, .while,
    .leftBrace, .rightBrace]

/-- How the word is written. -/
def text : Reserved → String
  | not => "!"
  | case => "case"
  | «do» => "do"
  | done => "done"
  | elif => "elif"
  | «else» => "else"
  | esac => "esac"
  | fi => "fi"
  | «for» => "for"
  | «if» => "if"
  | «in» => "in"
  | «then» => "then"
  | «until» => "until"
  | «while» => "while"
  | leftBrace => "\x7b"
  | rightBrace => "\x7d"

/-- The reserved word that a text is. -/
def ofText? (s : String) : Option Reserved :=
  all.find? fun r => r.text == s

end Reserved

/-- A token. -/
inductive Token where
  /-- The end of the script. -/
  | fileEnd
  /-- The end of a line. -/
  | newline
  | semicolon | background | and | or | pipe | leftParen | rightParen | endArm
  /-- A redirection, up to its target. -/
  | redirection
  /-- A word. -/
  | word
  /-- A reserved word. -/
  | reserved (r : Reserved)
  deriving DecidableEq

namespace Token

/-- The name of a token in complaints. -/
def name : Token → String
  | fileEnd => "end of file"
  | newline => "newline"
  | semicolon => "\";\""
  | background => "\"&\""
  | and => "\"&&\""
  | or => "\"||\""
  | pipe => "\"|\""
  | leftParen => "\"(\""
  | rightParen => "\")\""
  | endArm => "\";;\""
  | redirection => "redirection"
  | word => "word"
  | reserved r => "\"" ++ r.text ++ "\""

/-- Whether a list of commands may end before the token. -/
def endsList : Token → Bool
  | fileEnd | rightParen | endArm => true
  | reserved r =>
    match r with
    | .do | .done | .elif | .else | .esac | .fi | .then | .rightBrace => true
    | _ => false
  | _ => false

end Token

end CrossBuild.Shell
