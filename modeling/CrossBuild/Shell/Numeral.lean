/-!
# Numerals

Numbers at the start of texts, in the notations of the C language: blanks, a
sign, and digits whose base their own start may tell.  Numbers out of range
are taken as the nearest one.
-/
namespace CrossBuild.Shell

/-- A number read from the start of a text. -/
structure Numeral where
  /-- The number. -/
  value : Int
  /-- Whether it was out of range. -/
  isClamped : Bool
  /-- What follows it; all of the text if there is no number. -/
  rest : List Char
  deriving Inhabited

namespace Numeral

/-- Whether a character is white space, by the rules for octets. -/
def isSpace (c : Char) : Bool :=
  c == ' ' || (9 ≤ c.toNat && c.toNat ≤ 13)

/-- The value of a digit, in bases up to sixteen. -/
def digit? (base : Nat) (c : Char) : Option Nat :=
  let value : Option Nat :=
    if c.isDigit then some (c.toNat - '0'.toNat)
    else if 'a' ≤ c && c ≤ 'f' then some (c.toNat - 'a'.toNat + 10)
    else if 'A' ≤ c && c ≤ 'F' then some (c.toNat - 'A'.toNat + 10)
    else none
  value.filter (· < base)

/-- The digits at the start of a text, with what follows them. -/
def digits (base : Nat) : List Char → List Nat × List Char
  | [] => ([], [])
  | c :: cs =>
    match digit? base c with
    | some d => ((d :: (digits base cs).1), (digits base cs).2)
    | none => ([], c :: cs)

/-- The base that the start of a number tells, and the number from its first digit on. -/
def baseOf : List Char → Nat × List Char
  | '0' :: x :: c :: rest =>
    if (x == 'x' || x == 'X') && (digit? 16 c).isSome then (16, c :: rest)
    else (8, '0' :: x :: c :: rest)
  | '0' :: rest => (8, '0' :: rest)
  | cs => (10, cs)

/-- The number at the start of a text, as long as it is between two bounds. -/
def readBetween (least greatest : Int) (base? : Option Nat) (cs : List Char) : Numeral :=
  let body := cs.dropWhile isSpace
  let (isNegative, body) : Bool × List Char :=
    match body with
    | '-' :: rest => (true, rest)
    | '+' :: rest => (false, rest)
    | _ => (false, body)
  let (base, body) : Nat × List Char :=
    match base? with
    | some base => (base, body)
    | none => baseOf body
  let (ds, rest) := digits base body
  if ds.isEmpty then ⟨0, false, cs⟩
  else
    let size : Nat := ds.foldl (fun n d => n * base + d) 0
    let value : Int := if isNegative then -(size : Int) else size
    if value < least then ⟨least, true, rest⟩
    else if greatest < value then ⟨greatest, true, rest⟩
    else ⟨value, false, rest⟩

/-- The least and the greatest number of 64 bits. -/
def range64 : Int × Int := (-0x8000000000000000, 0x7fffffffffffffff)

/-- The signed number of 64 bits at the start of a text. -/
def readSigned (base? : Option Nat) (cs : List Char) : Numeral :=
  readBetween range64.1 range64.2 base? cs

/-- The unsigned number of 64 bits at the start of a text; a sign counts around. -/
def readUnsigned (base? : Option Nat) (cs : List Char) : Numeral :=
  let greatest : Int := 0xffffffffffffffff
  let n := readBetween (-greatest) greatest base? cs
  if n.isClamped then { n with value := greatest }
  else { n with value := if n.value < 0 then n.value + (greatest + 1) else n.value }

/-- The number that a whole text is, with blanks around it.  A text of blanks is zero if
the base is left to the number. -/
def whole? (base? : Option Nat) (s : String) : Option Int :=
  let cs := s.toList
  let n := readSigned base? cs
  let isMissing := base?.isSome && n.rest.length == cs.length
  if n.isClamped || isMissing || !n.rest.all isSpace then none else some n.value

end Numeral

end CrossBuild.Shell
