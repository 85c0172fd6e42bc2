import CrossBuild.Files.Lookup
import CrossBuild.SystemProgram

/-!
# Starting files

What the system starts when a file is to be run.  A file is either a program
of the machine or a text whose first line names an interpreter; the
interpreter is then started with the file's path among its arguments, and may
itself be such a text.
-/
namespace CrossBuild.Shell

/-- A program that is to be started, and its arguments, of which the first is its name. -/
structure Image where
  /-- The program. -/
  program : SystemProgram
  /-- The arguments. -/
  arguments : List String

namespace Image

/-- How much of a file is looked at for the name of an interpreter. -/
def headSize : Nat := 256

/-- The interpreter that a text begins with, and its argument.  The name of the interpreter
ends at a blank; all that follows it in the line is one argument.  A name that does not end
in the part that is looked at is none. -/
def interpreter? (data : ByteArray) : Option (String × List String) :=
  let isBlank (c : Char) : Bool := c == ' ' || c == '\t'
  let trimEnd (cs : List Char) : List Char := (cs.reverse.dropWhile isBlank).reverse
  match (Octets.ofBytes (data.extract 0 headSize)).toList with
  | '#' :: '!' :: cs =>
    let line := cs.takeWhile (· != '\n')
    let isWhole := line.length < cs.length || data.size < headSize
    let body := line.dropWhile isBlank
    let name := body.takeWhile fun c => !isBlank c
    if !isWhole && name.length == body.length then none
    else
      let endsText (c : Char) : Bool := c != Char.ofNat 0
      let argument := trimEnd (body.dropWhile (fun c => !isBlank c) |>.dropWhile isBlank)
      let name := (trimEnd name).takeWhile endsText
      let argument := argument.takeWhile endsText
      if name.isEmpty then none
      else some (String.ofList name, if argument.isEmpty then [] else [String.ofList argument])
  | _ => none

/-- How many files one start may look at. -/
def depthLimit : Nat := 6

/-- What is started when a file is run; the bound is the number of files. -/
def ofFileUpTo (t : FileTree) (directory : Place) :
    Nat → (file : String) → (arguments : List String) → Except FileError Image
  | 0, _, _ => .error .tooManyLinks
  | n + 1, file, arguments =>
    match t.entryAt directory ⟨Octets.toText file⟩ with
    | .error e => .error e
    | .ok (.file data true) =>
      match SystemProgram.ofImage? data with
      | some program => .ok ⟨program, arguments⟩
      | none =>
        match interpreter? data with
        | none => .error .notRunnable
        | some (name, extra) => ofFileUpTo t directory n name (name :: extra ++ file :: arguments.tail)
    | .ok _ => .error .permissionDenied

/-- What is started when a file is run. -/
def ofFile (t : FileTree) (directory : Place) (file : String) (arguments : List String) :
    Except FileError Image :=
  ofFileUpTo t directory depthLimit file arguments

/-- The path of the shell that runs texts without an interpreter. -/
def shellPath : String := "/bin/sh"

/-- What is started when a file is run that may be a text without an interpreter, which is
then a script. -/
def ofFileOrScript (t : FileTree) (directory : Place) (file : String) (arguments : List String) :
    Except FileError Image :=
  match ofFile t directory file arguments with
  | .error .notRunnable =>
    ofFile t directory shellPath (shellPath :: file :: arguments.tail)
  | result => result

end Image

end CrossBuild.Shell
