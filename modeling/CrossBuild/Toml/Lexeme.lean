import CrossBuild.Text.DecimalDigit
import CrossBuild.Text.Search
import CrossBuild.Toml.Value

/-!
# Lexemes of configuration files

The readers for the parts of a TOML file that contain no other values: white
space and comments, strings and keys, numbers, and dates.  Each takes the
characters that are left and gives what it read and what is left then, or
nothing if the text is not in its form.
-/
namespace CrossBuild.Toml

/-- A reader: what it read, and the characters left. -/
abbrev Reader (α : Type) := List Char → Option (α × List Char)

/-! ## 1. White space -/

/-- Whether a character may stand in comments and, but for their own marks, in
strings: a tab, or anything that is no control character. -/
def isTextChar (c : Char) : Bool :=
  c == '\t' || (0x20 ≤ c.toNat && c.toNat != 0x7F)

/-- The text without spaces and tabs in front. -/
def skipSpace (cs : List Char) : List Char :=
  cs.dropWhile fun c => c == ' ' || c == '\t'

/-- What follows a line end. -/
def lineEnd? : List Char → Option (List Char)
  | '\n' :: cs => some cs
  | '\r' :: '\n' :: cs => some cs
  | _ => none

/-- The text without a comment in front. -/
def skipComment : List Char → List Char
  | '#' :: cs => cs.dropWhile isTextChar
  | cs => cs

/-- The text without the spaces, comments and line ends in front.  The bound
`n` is the number of lines to try. -/
def skipLines : Nat → List Char → List Char
  | 0, cs => cs
  | n + 1, cs =>
    let spaced := skipSpace cs
    match lineEnd? (skipComment spaced) with
    | some rest => skipLines n rest
    | none => spaced

/-- The text after the rest of a line that holds nothing more. -/
def endOfLine? (cs : List Char) : Option (List Char) :=
  match skipComment (skipSpace cs) with
  | [] => some []
  | rest => lineEnd? rest

/-! ## 2. Strings -/

/-- The value of a hexadecimal digit. -/
def hexValue? (c : Char) : Option Nat :=
  if c.isDigit then some (c.toNat - '0'.toNat)
  else if 'a' ≤ c && c ≤ 'f' then some (c.toNat - 'a'.toNat + 10)
  else if 'A' ≤ c && c ≤ 'F' then some (c.toNat - 'A'.toNat + 10)
  else none

/-- The number that digits of a base make after the number `n`. -/
def numberAfter (base : Nat) (n : Nat) : List Char → Option Nat
  | [] => some n
  | c :: cs => (hexValue? c).bind fun d => if d < base then numberAfter base (base * n + d) cs else none

/-- The character with the number that a fixed count of hexadecimal digits writes. -/
def numberedChar (count : Nat) : Reader Char := fun cs =>
  if cs.length < count then none
  else
    (numberAfter 16 0 (cs.take count)).bind fun n =>
      if n < 0xD800 || (0xDFFF < n && n < 0x110000) then some (Char.ofNat n, cs.drop count)
      else none

/-- The character that an escape stands for, read after the backslash. -/
def escaped : Reader Char
  | 'b' :: cs => some (Char.ofNat 8, cs)
  | 't' :: cs => some ('\t', cs)
  | 'n' :: cs => some ('\n', cs)
  | 'f' :: cs => some (Char.ofNat 12, cs)
  | 'r' :: cs => some ('\r', cs)
  | '"' :: cs => some ('"', cs)
  | '\\' :: cs => some ('\\', cs)
  | 'u' :: cs => numberedChar 4 cs
  | 'U' :: cs => numberedChar 8 cs
  | _ => none

/-- A text with one more character in front. -/
def push (c : Char) (r : List Char × List Char) : List Char × List Char :=
  (c :: r.1, r.2)

/-- The rest of a string in double quotes.  The bound `n` is the number of
characters left. -/
def quotedRest : Nat → Reader (List Char)
  | 0, _ => none
  | _ + 1, [] => none
  | n + 1, c :: cs =>
    if c = '"' then some ([], cs)
    else if c = '\\' then
      (escaped cs).bind fun (c, cs) => (quotedRest n cs).map (push c)
    else if isTextChar c then (quotedRest n cs).map (push c)
    else none

/-- The rest of a string between apostrophes. -/
def literalRest : Reader (List Char)
  | [] => none
  | c :: cs =>
    if c.toNat = 39 then some ([], cs)
    else if isTextChar c then (literalRest cs).map (push c)
    else none

/-- The text without spaces, tabs and line ends in front.  The bound is the
length of the text. -/
def skipBlankLines : Nat → List Char → List Char
  | 0, cs => cs
  | n + 1, cs =>
    let spaced := skipSpace cs
    match lineEnd? spaced with
    | some rest => skipBlankLines n rest
    | none => spaced

/-- What follows the line end, and the blank lines after it, that a backslash
at the end of a line hides; none if the line does not end there. -/
def hiddenLineEnd? (cs : List Char) : Option (List Char) :=
  (lineEnd? (skipSpace cs)).map fun rest => skipBlankLines rest.length rest

/-- The rest of a string over several lines, up to three marks; up to two more
marks before these belong to the text.  With `escapes` a backslash begins an
escape.  The bound `n` is the number of characters left. -/
def manyLinesRest (mark : Char) (escapes : Bool) : Nat → Reader (List Char)
  | 0, _ => none
  | _ + 1, [] => none
  | n + 1, c :: cs =>
    if c = mark then
      let run := ((c :: cs).takeWhile (· == mark)).length
      if 3 ≤ run then
        let kept := min (run - 3) 2
        some (List.replicate kept mark, (c :: cs).drop (kept + 3))
      else (manyLinesRest mark escapes n cs).map (push c)
    else if escapes && c = '\\' then
      match hiddenLineEnd? cs with
      | some rest => manyLinesRest mark escapes n rest
      | none => (escaped cs).bind fun (c, cs) => (manyLinesRest mark escapes n cs).map (push c)
    else
      match lineEnd? (c :: cs) with
      | some rest => (manyLinesRest mark escapes n rest).map (push '\n')
      | none => if isTextChar c then (manyLinesRest mark escapes n cs).map (push c) else none

/-- The text without the line end in front. -/
def skipLineEnd (cs : List Char) : List Char :=
  (lineEnd? cs).getD cs

/-- A string on one line. -/
def shortString : Reader (List Char)
  | '"' :: cs => quotedRest (cs.length + 1) cs
  | c :: cs => if c.toNat = 39 then literalRest cs else none
  | [] => none

/-- A string in any form. -/
def string : Reader (List Char)
  | a :: b :: c :: cs =>
    if a = b && b = c && (a = '"' || a.toNat = 39) then
      manyLinesRest a (a = '"') (cs.length + 1) (skipLineEnd cs)
    else shortString (a :: b :: c :: cs)
  | cs => shortString cs

/-! ## 3. Keys -/

/-- Whether a character may stand in a key without quotes. -/
def isBareKeyChar (c : Char) : Bool :=
  c.isAlphanum || c == '-' || c == '_'

/-- A key without dots. -/
def simpleKey : Reader KeyPart := fun cs =>
  let part (text rest : List Char) : KeyPart × List Char :=
    (⟨String.ofList text, ⟨cs.length, rest.length⟩⟩, rest)
  let bare := cs.takeWhile isBareKeyChar
  if bare.isEmpty then (shortString cs).map fun (text, rest) => part text rest
  else some (part bare (cs.dropWhile isBareKeyChar))

/-- How many parts a key may have, and how deep values may be nested. -/
def nestingLimit : Nat := 80

/-- The parts of a key, between dots.  The bound is the number of parts left. -/
def keyParts : Nat → Reader (List KeyPart)
  | 0, _ => none
  | n + 1, cs =>
    (simpleKey (skipSpace cs)).bind fun (first, rest) =>
      match skipSpace rest with
      | '.' :: rest => (keyParts n rest).map fun (others, rest) => (first :: others, rest)
      | rest => some ([first], rest)

/-- A key. -/
def key : Reader (List KeyPart) :=
  keyParts (nestingLimit - 1)

/-! ## 4. Numbers -/

/-- A run of digits, in which single underscores may stand between digits. -/
def digitRun (isDigit : Char → Bool) : List Char → List Char × List Char
  | '_' :: c :: cs =>
    if isDigit c then push c (digitRun isDigit cs) else ([], '_' :: c :: cs)
  | c :: cs => if isDigit c then push c (digitRun isDigit cs) else ([], c :: cs)
  | [] => ([], [])

/-- A run of digits that begins with one. -/
def digits (isDigit : Char → Bool) : Reader (List Char)
  | c :: cs => if isDigit c then some (push c (digitRun isDigit cs)) else none
  | [] => none

/-- A sign; true for minus. -/
def sign : List Char → Bool × List Char
  | '+' :: cs => (false, cs)
  | '-' :: cs => (true, cs)
  | cs => (false, cs)

/-- The digits of a whole number without a sign, which begin with a zero only
if there are no others. -/
def wholeDigits : Reader (List Char)
  | '0' :: cs => some (['0'], cs)
  | cs => digits Char.isDigit cs

/-- Whether a number is one of 64 bits. -/
def isInRange (n : Int) : Bool :=
  -9223372036854775808 ≤ n && n ≤ 9223372036854775807

/-- A whole number in a base other than ten, after its mark. -/
def basedInteger (base : Nat) : Reader Int := fun cs =>
  let valid (c : Char) : Bool := (hexValue? c).any (· < base)
  (digits valid cs).bind fun (ds, rest) =>
    (numberAfter base 0 ds).bind fun n => if isInRange n then some ((n : Int), rest) else none

/-- A whole number. -/
def integer : Reader Int
  | '0' :: 'x' :: cs => basedInteger 16 cs
  | '0' :: 'o' :: cs => basedInteger 8 cs
  | '0' :: 'b' :: cs => basedInteger 2 cs
  | cs =>
    let (negative, unsigned) := sign cs
    (wholeDigits unsigned).bind fun (ds, rest) =>
      (numberAfter 10 0 ds).bind fun n =>
        let value : Int := if negative then -(n : Int) else n
        if isInRange value then some (value, rest) else none

/-- An exponent of ten, after its mark. -/
def exponent : Reader Int := fun cs =>
  let (negative, unsigned) := sign cs
  (digits Char.isDigit unsigned).bind fun (ds, rest) =>
    (numberAfter 10 0 ds).map fun n => (if negative then -(n : Int) else n, rest)

/-- The part of a number from its exponent on; zero if there is none. -/
def exponentPart : Reader Int
  | 'e' :: cs | 'E' :: cs => exponent cs
  | cs => some (0, cs)

/-- The number that digits, the count of those after the point, and an exponent
write.  Sizes far out of range are not computed. -/
def realOf (negative : Bool) (ds : List Char) (places : Nat) (exponent : Int) : Option Real :=
  (numberAfter 10 0 ds).bind fun n =>
    let scale := exponent - places
    if n = 0 || scale + ds.length < -400 then some (.finite negative ⟨0, Decimal.minExponent⟩)
    else
      let size := if 400 < scale + ds.length then none
        else Decimal.nearest? ((Decimal.Ratio.mk n 1).scale 10 scale)
      match size with
      | some size => some (.finite negative size)
      | none => if negative then some (.infinite true) else none

/-- A number with a point or an exponent. -/
def decimalReal (negative : Bool) : Reader Real := fun cs =>
  (wholeDigits cs).bind fun (whole, rest) =>
    match rest with
    | '.' :: rest =>
      (digits Char.isDigit rest).bind fun (places, rest) =>
        (exponentPart rest).bind fun (e, rest) =>
          (realOf negative (whole ++ places) places.length e).map fun x => (x, rest)
    | 'e' :: _ | 'E' :: _ =>
      (exponentPart rest).bind fun (e, rest) => (realOf negative whole 0 e).map fun x => (x, rest)
    | _ => none

/-- A number that is not whole, or has a name. -/
def real : Reader Real := fun cs =>
  let (negative, unsigned) := sign cs
  match unsigned with
  | 'i' :: 'n' :: 'f' :: rest => some (.infinite negative, rest)
  | 'n' :: 'a' :: 'n' :: rest => some (.nan, rest)
  | _ => decimalReal negative unsigned

/-! ## 5. Dates and times -/

/-- A number of exactly so many digits, at most `greatest` and at least `least`. -/
def fixedNumber (count least greatest : Nat) : Reader Nat := fun cs =>
  if cs.length < count then none
  else
    (Text.asciiNumber? (cs.take count)).bind fun n =>
      if least ≤ n && n ≤ greatest then some (n, cs.drop count) else none

/-- What follows a character that has to be there. -/
def expect (c : Char) (cs : List Char) : Option (List Char) :=
  Text.after? [c] cs

/-- The number of days in a month. -/
def daysIn (year month : Nat) : Nat :=
  if month = 2 then
    if year % 4 = 0 && (year % 100 != 0 || year % 400 = 0) then 29 else 28
  else if month = 4 || month = 6 || month = 9 || month = 11 then 30
  else 31

/-- What follows a date. -/
def afterDate? (cs : List Char) : Option (List Char) := do
  let (year, cs) ← fixedNumber 4 0 9999 cs
  let cs ← expect '-' cs
  let (month, cs) ← fixedNumber 2 1 12 cs
  let cs ← expect '-' cs
  let (_, cs) ← fixedNumber 2 1 (daysIn year month) cs
  return cs

/-- What follows a time of the day. -/
def afterTime? (cs : List Char) : Option (List Char) := do
  let (_, cs) ← fixedNumber 2 0 23 cs
  let cs ← expect ':' cs
  let (_, cs) ← fixedNumber 2 0 59 cs
  let cs ← expect ':' cs
  let (_, cs) ← fixedNumber 2 0 60 cs
  match cs with
  | '.' :: d :: rest => if d.isDigit then return rest.dropWhile Char.isDigit else none
  | '.' :: [] => none
  | _ => return cs

/-- What follows the distance of a time from the standard one; nothing is
needed. -/
def afterOffset? (cs : List Char) : Option (List Char) :=
  match cs with
  | 'Z' :: rest | 'z' :: rest => some rest
  | '+' :: rest | '-' :: rest => do
    let (_, rest) ← fixedNumber 2 0 23 rest
    let rest ← expect ':' rest
    let (_, rest) ← fixedNumber 2 0 59 rest
    return rest
  | _ => some cs

/-- What follows a date, a time, or both. -/
def afterMoment? (cs : List Char) : Option (List Char) :=
  match afterDate? cs with
  | none => afterTime? cs
  | some rest =>
    match rest with
    | 'T' :: timed | 't' :: timed => (afterTime? timed).bind afterOffset?
    | ' ' :: timed =>
      match afterTime? timed with
      | some rest => afterOffset? rest
      | none => some rest
    | _ => some rest

/-! ## 6. Scalars -/

/-- A value that begins with a digit or a sign.  A date begins like a number,
and a number with a point like a whole one. -/
def number : Reader Scalar := fun cs =>
  match afterMoment? cs with
  | some rest => some (.moment, rest)
  | none =>
    match real cs with
    | some (x, rest) => some (.real x, rest)
    | none => (integer cs).map fun (n, rest) => (.integer n, rest)

/-- A value without parts. -/
def scalar : Reader Scalar
  | 't' :: 'r' :: 'u' :: 'e' :: cs => some (.boolean true, cs)
  | 'f' :: 'a' :: 'l' :: 's' :: 'e' :: cs => some (.boolean false, cs)
  | c :: cs =>
    if c = '"' || c.toNat = 39 then
      (string (c :: cs)).map fun (text, rest) => (.string (String.ofList text), rest)
    else if c = 'i' || c = 'n' then (real (c :: cs)).map fun (x, rest) => (.real x, rest)
    else number (c :: cs)
  | [] => none

end CrossBuild.Toml
