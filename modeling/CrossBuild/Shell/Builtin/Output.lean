import CrossBuild.Shell.Conversion
import CrossBuild.Shell.Variable

/-!
# Writing text

The commands `echo` and `printf`, with the escapes that they know.  A format
is used again until no arguments are left; missing arguments are empty.
-/
namespace CrossBuild.Shell

/-! ## 1. Options -/

/-- Reads the options of one argument, of which `letters` are left; `withValue` says which
options have a value, which may be in the next argument. -/
def optionsIn (isKnown withValue : Char → Bool) : List Char → List String →
    ShellM (List (Char × String) × List String)
  | [], rest => return ([], rest)
  | c :: letters, rest => do
    if !isKnown c then fail ("Illegal option -" ++ toString c)
    else if withValue c then
      match letters, rest with
      | [], value :: rest => return ([(c, value)], rest)
      | [], [] => fail ("No arg for -" ++ toString c ++ " option")
      | _, _ => return ([(c, String.ofList letters)], rest)
    else
      let (more, rest) ← optionsIn isKnown withValue letters rest
      return ((c, "") :: more, rest)

/-- Reads the options before the arguments of a command. -/
def readOptionsUpTo (isKnown withValue : Char → Bool) : Nat → List String →
    ShellM (List (Char × String) × List String)
  | 0, rest => return ([], rest)
  | n + 1, rest => do
    match rest with
    | [] => return ([], [])
    | word :: others =>
      match word.toList with
      | ['-', '-'] => return ([], others)
      | '-' :: c :: letters =>
        let (first, others) ← optionsIn isKnown withValue (c :: letters) others
        let (more, others) ← readOptionsUpTo isKnown withValue n others
        return (first ++ more, others)
      | _ => return ([], rest)

/-- Reads the options before the arguments of a command: those of `plain` have no value,
those of `valued` have one. -/
def readOptions (plain valued : String) (arguments : List String) :
    ShellM (List (Char × String) × List String) :=
  readOptionsUpTo (fun c => plain.toList.contains c || valued.toList.contains c)
    valued.toList.contains arguments.length arguments

/-- Passes over the end of options; there are none. -/
def withoutOptions (arguments : List String) : ShellM (List String) := do
  return (← readOptions "" "" arguments).2

/-! ## 2. Escapes -/

/-- Whether a character is an octal digit. -/
def isOctal (c : Char) : Bool :=
  '0' ≤ c && c ≤ '7'

/-- The character of octal digits. -/
def ofOctal (cs : List Char) : Char :=
  Char.ofNat ((cs.foldl (fun n c => n * 8 + (c.toNat - '0'.toNat)) 0) % 256)

/-- The character that an escape stands for, from after its backslash, and what follows.
A backslash before any other character is one. -/
def escape (cs : List Char) : Char × List Char :=
  match cs with
  | '\\' :: rest => ('\\', rest)
  | 'a' :: rest => ('\x07', rest)
  | 'b' :: rest => ('\x08', rest)
  | 'e' :: rest => ('\x1b', rest)
  | 'f' :: rest => ('\x0c', rest)
  | 'n' :: rest => ('\n', rest)
  | 'r' :: rest => ('\r', rest)
  | 't' :: rest => ('\t', rest)
  | 'v' :: rest => ('\x0b', rest)
  | _ =>
    let digits := (cs.take 3).takeWhile isOctal
    if digits.isEmpty then ('\\', cs) else (ofOctal digits, cs.drop digits.length)

/-- A text with its escapes, and whether one of them ends all output.  The bound is the
length of the text. -/
def unescapedUpTo : Nat → List Char → List Char × Bool
  | 0, _ => ([], false)
  | _ + 1, [] => ([], false)
  | _ + 1, '\\' :: 'c' :: _ => ([], true)
  | n + 1, '\\' :: rest =>
    let start :=
      match rest with
      | '0' :: c :: more => if isOctal c then c :: more else rest
      | _ => rest
    let (c, rest) := escape start
    let (cs, isOver) := unescapedUpTo n rest
    (c :: cs, isOver)
  | n + 1, c :: rest =>
    let (cs, isOver) := unescapedUpTo n rest
    (c :: cs, isOver)

/-- A text with its escapes, and whether one of them ends all output. -/
def unescaped (s : String) : String × Bool :=
  let (cs, isOver) := unescapedUpTo (s.length + 1) s.toList
  (String.ofList cs, isOver)

/-! ## 3. Echo -/

/-- Writes words with blanks between them, and the end of the line. -/
def echoWords (endsLine : Bool) : List String → ShellM Unit
  | [] => if endsLine then say "\n" else pure ()
  | word :: rest => do
    let (text, isOver) := unescaped word
    say text
    if !isOver then
      if !rest.isEmpty then say " "
      echoWords endsLine rest

/-- The command `echo`. -/
def echo (arguments : List String) : ShellM Nat := do
  match arguments with
  | "-n" :: rest => echoWords false rest
  | _ => echoWords true arguments
  return 0

/-! ## 4. Formats -/

/-- The arguments of a format, and the status so far. -/
structure FormatState where
  /-- The arguments that are left. -/
  rest : List String
  /-- The status. -/
  status : Nat := 0
  /-- Whether output is over. -/
  isOver : Bool := false

namespace FormatState

/-- Takes the next argument. -/
def take (s : FormatState) : Option String × FormatState :=
  match s.rest with
  | [] => (none, s)
  | word :: rest => (some word, { s with rest })

end FormatState

/-- Reports what is wrong with a number; gives the status. -/
def checkNumber (text : String) (rest : List Char) (isClamped : Bool) : ShellM Nat := do
  if !rest.isEmpty then
    complain (text ++ (if rest.length = text.length then ": expected numeric value"
      else ": not completely converted"))
    return 1
  else if isClamped then
    complain (text ++ ": Numerical result out of range")
    return 1
  else return 0

/-- The number of a character after a quote. -/
def quotedCode? (text : String) : Option Nat :=
  match text.toList with
  | '\'' :: rest | '"' :: rest => some ((rest.head?.map Char.toNat).getD 0)
  | _ => none

/-- Takes a whole number. -/
def takeInteger (isSigned : Bool) (s : FormatState) : ShellM (Int × FormatState) := do
  match s.take with
  | (none, s) => return (0, s)
  | (some text, s) =>
    match quotedCode? text with
    | some n => return (n, s)
    | none =>
      let n := if isSigned then Numeral.readSigned none text.toList
        else Numeral.readUnsigned none text.toList
      let status ← checkNumber text n.rest n.isClamped
      return (n.value, { s with status := max s.status status })

/-- Takes a number of double precision. -/
def takeReal (s : FormatState) : ShellM (Decimal.Value × FormatState) := do
  match s.take with
  | (none, s) => return (.zero, s)
  | (some text, s) =>
    match quotedCode? text with
    | some n => return (.ofNat n, s)
    | none =>
      let n := RealNumeral.read text.toList
      let status ← checkNumber text n.rest n.isClamped
      return (n.value, { s with status := max s.status status })

/-- Reads a width or a precision, which an argument may give. -/
def readSize (cs : List Char) (s : FormatState) : ShellM (Option Int × List Char × FormatState) := do
  match cs with
  | '*' :: rest =>
    let (n, s) ← takeInteger true s
    return (some n, rest, s)
  | _ =>
    let (ds, rest) := Numeral.digits 10 cs
    let n : Nat := ds.foldl (fun n d => n * 10 + d) 0
    return (if ds.isEmpty then none else some n, rest, s)

/-- Reads a directive from after its percent sign. -/
def readDirective (cs : List Char) (s : FormatState) :
    ShellM (Directive × List Char × FormatState) := do
  let flags := cs.takeWhile "#-+ 0".toList.contains
  let d := flags.foldl Directive.withFlag {}
  let (width, cs, s) ← readSize (cs.drop flags.length) s
  let d := d.withWidth (width.getD 0)
  match cs with
  | '.' :: cs =>
    let (precision, cs, s) ← readSize cs s
    return (d.withPrecision (precision.getD 0), cs, s)
  | _ => return (d, cs, s)

/-- Writes an argument as a directive says, by its letter; `text` is the directive as it is
written. -/
def writeArgument (d : Directive) (letter : Char) (text : String) (s : FormatState) :
    ShellM FormatState := do
  if letter == 'b' then
    let (word, s) := s.take
    let (text, isOver) := unescaped (word.getD "")
    say (d.text text)
    return { s with isOver }
  else if letter == 's' then
    let (word, s) := s.take
    say (d.text (word.getD ""))
    return s
  else if letter == 'c' then
    let (word, s) := s.take
    let c := ((word.getD "").toList.head?).getD (Char.ofNat 0)
    say ({ d with precision := none }.text (toString c))
    return s
  else if letter == 'd' || letter == 'i' then
    let (n, s) ← takeInteger true s
    say (d.integer n)
    return s
  else if "ouxX".toList.contains letter then
    let (n, s) ← takeInteger false s
    say (d.natural (if letter == 'o' then 8 else if letter == 'u' then 10 else 16)
      (letter == 'X') n.toNat)
    return s
  else if "aAeEfFgG".toList.contains letter then
    let (x, s) ← takeReal s
    say (d.real letter x)
    return s
  else fail (text ++ ": invalid directive")

/-- Goes through a format once.  The bound is its length. -/
def formatOnce : Nat → List Char → FormatState → ShellM FormatState
  | 0, _, s => return s
  | n + 1, cs, s => do
    match cs with
    | [] => return s
    | '\\' :: rest =>
      let (c, rest) := escape rest
      say (toString c)
      formatOnce n rest s
    | '%' :: '%' :: rest =>
      say "%"
      formatOnce n rest s
    | '%' :: rest =>
      let (d, after, s) ← readDirective rest s
      match after with
      | [] => fail "missing format character"
      | letter :: after =>
        let text := String.ofList ('%' :: rest.take (rest.length - after.length))
        let s ← writeArgument d letter text s
        if s.isOver then return s else formatOnce n after s
    | c :: rest =>
      say (toString c)
      formatOnce n rest s

/-- Goes through a format until no arguments are left.  The bound is their number. -/
def formatAll (format : List Char) : Nat → FormatState → ShellM FormatState
  | 0, s => return s
  | n + 1, s => do
    let next ← formatOnce (format.length + 1) format s
    if next.isOver || next.rest.isEmpty || next.rest.length = s.rest.length then return next
    else formatAll format n next

/-- The command `printf`. -/
def printf (arguments : List String) : ShellM Nat := do
  match ← withoutOptions arguments with
  | [] => fail "usage: printf format [arg ...]"
  | format :: rest =>
    return (← formatAll format.toList (rest.length + 1) { rest }).status

end CrossBuild.Shell
