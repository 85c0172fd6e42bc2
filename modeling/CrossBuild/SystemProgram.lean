import CrossBuild.Text.Octets

/-!
# The programs of a machine

The programs that a machine has besides those that its users write.  Each is
a file like any other: `SystemProgram.image` is what stands in it, and
`SystemProgram.ofImage?` tells from a file's bytes which program it is.
-/
namespace CrossBuild

/-- A program. -/
inductive SystemProgram where
  /-- The shell, which runs scripts. -/
  | shell
  | basename | cat | chmod | cp | dirname | echo | env | failing | head | link | listing | mkdir
  | move | printf | pwd | rm | rmdir | sleep | succeeding | test | bracketTest | touch | wc
  deriving DecidableEq, Repr, Inhabited

namespace SystemProgram

/-- All programs. -/
def all : List SystemProgram :=
  [shell, basename, cat, chmod, cp, dirname, echo, env, failing, head, link, listing, mkdir, move,
    printf, pwd, rm, rmdir, sleep, succeeding, test, bracketTest, touch, wc]

/-- The name of a program's file. -/
def fileName : SystemProgram → String
  | shell => "sh"
  | basename => "basename"
  | cat => "cat"
  | chmod => "chmod"
  | cp => "cp"
  | dirname => "dirname"
  | echo => "echo"
  | env => "env"
  | failing => "false"
  | head => "head"
  | link => "ln"
  | listing => "ls"
  | mkdir => "mkdir"
  | move => "mv"
  | printf => "printf"
  | pwd => "pwd"
  | rm => "rm"
  | rmdir => "rmdir"
  | sleep => "sleep"
  | succeeding => "true"
  | test => "test"
  | bracketTest => "["
  | touch => "touch"
  | wc => "wc"

/-- What the file of a program begins with. -/
def imageStart : String := "\x7fELF"

/-- The bytes of a program's file. -/
def image (p : SystemProgram) : ByteArray :=
  (imageStart ++ p.fileName).toUTF8

/-- The program whose file has some bytes. -/
def ofImage? (data : ByteArray) : Option SystemProgram :=
  all.find? fun p => p.image == data

end SystemProgram

end CrossBuild
