/-!
# What goes wrong with files

The causes for which an operation on files or a start of a program fails.
Most are the system's own error numbers; the others are found before the
system is asked.
-/
namespace CrossBuild

/-- A cause for which an operation on files fails. -/
inductive FileError where
  /-- A part of the path does not exist. -/
  | notFound
  /-- The file may not be used so, as when a program is not executable. -/
  | permissionDenied
  /-- A program file has no form that the system can run. -/
  | notRunnable
  /-- The place is in use by the system. -/
  | busy
  /-- There is an entry already. -/
  | alreadyExists
  /-- A part of the path that should be a directory is none. -/
  | notADirectory
  /-- A directory stands where a file is needed. -/
  | isADirectory
  /-- A directory cannot move below itself. -/
  | invalidArgument
  /-- A directory that should be replaced is not empty. -/
  | notEmpty
  /-- A name or a path is longer than the system takes. -/
  | nameTooLong
  /-- Following links does not end. -/
  | tooManyLinks
  /-- A path holds the character that ends texts for the system. -/
  | pathHasNul
  /-- A command line holds the character that ends texts for the system. -/
  | argumentHasNul
  /-- A file's bytes are no text. -/
  | notText
  /-- What should be copied is no regular file. -/
  | notARegularFile
  /-- Any other cause, in words. -/
  | other (text : String)
  deriving DecidableEq, Repr, Inhabited

namespace FileError

/-- The text of a numbered error of the system. -/
def numbered (text : String) (number : Nat) : String :=
  text ++ " (os error " ++ toString number ++ ")"

/-- The system's words and number for a cause, if it is one of the system's. -/
def numbered? : FileError → Option (String × Nat)
  | notFound => some ("No such file or directory", 2)
  | permissionDenied => some ("Permission denied", 13)
  | notRunnable => some ("Exec format error", 8)
  | busy => some ("Device or resource busy", 16)
  | alreadyExists => some ("File exists", 17)
  | notADirectory => some ("Not a directory", 20)
  | isADirectory => some ("Is a directory", 21)
  | invalidArgument => some ("Invalid argument", 22)
  | nameTooLong => some ("File name too long", 36)
  | notEmpty => some ("Directory not empty", 39)
  | tooManyLinks => some ("Too many levels of symbolic links", 40)
  | _ => none

/-- The words for a cause, without its number. -/
def words (e : FileError) : String :=
  match e with
  | pathHasNul => "file name contained an unexpected NUL byte"
  | argumentHasNul => "nul byte found in provided data"
  | notText => "stream did not contain valid UTF-8"
  | notARegularFile =>
    "the source path is neither a regular file nor a symlink to a regular file"
  | other text => text
  | e => ((numbered? e).map Prod.fst).getD ""

/-- The words for a cause, with its number if it has one. -/
def message (e : FileError) : String :=
  match numbered? e with
  | some (text, number) => numbered text number
  | none => e.words

end FileError

end CrossBuild
