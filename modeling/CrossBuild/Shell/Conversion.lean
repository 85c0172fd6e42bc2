import CrossBuild.Decimal.Notation
import CrossBuild.Shell.Numeral

/-!
# Conversions

How values are written by a format: the directive with its flags, its width
and its precision, and one function for each kind of value.  Texts are made of
octets, so widths count bytes.
-/
namespace CrossBuild.Shell

/-- A directive of a format, without the letter that says what is written. -/
structure Directive where
  /-- Whether the base of a number is shown, or its point kept. -/
  alternate : Bool := false
  /-- Whether the text stands at the left of its field. -/
  atLeft : Bool := false
  /-- Whether a plus sign is shown. -/
  plusSign : Bool := false
  /-- Whether a blank stands where there is no sign. -/
  blankSign : Bool := false
  /-- Whether a number fills its field with zeros. -/
  zeros : Bool := false
  /-- The width of the field. -/
  width : Nat := 0
  /-- The precision. -/
  precision : Option Nat := none

namespace Directive

/-- Adds a flag. -/
def withFlag (d : Directive) (c : Char) : Directive :=
  match c with
  | '#' => { d with alternate := true }
  | '-' => { d with atLeft := true }
  | '+' => { d with plusSign := true }
  | ' ' => { d with blankSign := true }
  | _ => { d with zeros := true }

/-- Sets the width; a negative one also puts the text at the left. -/
def withWidth (d : Directive) (n : Int) : Directive :=
  if n < 0 then { d with atLeft := true, width := n.natAbs } else { d with width := n.toNat }

/-- Sets the precision; a negative one is none. -/
def withPrecision (d : Directive) (n : Int) : Directive :=
  { d with precision := if n < 0 then none else some n.toNat }

/-- A text in its field; `lead` is what zeros stand after. -/
def inField (d : Directive) (withZeros : Bool) (lead body : String) : String :=
  let filler (c : Char) : String :=
    String.ofList (List.replicate (d.width - (lead.length + body.length)) c)
  if d.atLeft then lead ++ body ++ filler ' '
  else if withZeros && d.zeros then lead ++ filler '0' ++ body
  else filler ' ' ++ lead ++ body

/-- A text, of which the precision says how much is written. -/
def text (d : Directive) (s : String) : String :=
  d.inField false ""
    (match d.precision with
    | some n => String.ofList (s.toList.take n)
    | none => s)

/-- The sign of a number. -/
def sign (d : Directive) (isNegative : Bool) : String :=
  if isNegative then "-" else if d.plusSign then "+" else if d.blankSign then " " else ""

/-- The digits of a number, at least as many as the precision says. -/
def digits (d : Directive) (s : String) : String :=
  match d.precision with
  | some n => if n = 0 && s == "0" then "" else String.ofList (List.replicate (n - s.length) '0') ++ s
  | none => s

/-- A whole number. -/
def integer (d : Directive) (n : Int) : String :=
  d.inField d.precision.isNone (d.sign (n < 0)) (d.digits (toString n.natAbs))

/-- A natural number in a base. -/
def natural (d : Directive) (base : Nat) (capitals : Bool) (n : Nat) : String :=
  let plain := String.ofList (Nat.toDigits base n)
  let body := d.digits (if capitals then plain.toUpper else plain)
  let body := if d.alternate && base = 8 && body.toList.head? != some '0' then "0" ++ body else body
  let lead :=
    if d.alternate && base = 16 && n ≠ 0 then (if capitals then "0X" else "0x") else ""
  d.inField d.precision.isNone lead body

/-- A number of double precision, by the letter of its notation. -/
def real (d : Directive) (letter : Char) (x : Decimal.Value) : String :=
  let capitals : String → String := if letter.isUpper then String.toUpper else id
  let lead := d.sign x.isNegative
  match x with
  | .infinite _ => d.inField false lead (capitals "inf")
  | .none _ => d.inField false lead (capitals "nan")
  | .finite _ size =>
    let places := d.precision.getD 6
    match letter.toLower with
    | 'f' => d.inField true lead (size.fixed places d.alternate)
    | 'e' => d.inField true lead (capitals (size.scientific places d.alternate))
    | 'a' =>
      d.inField true (lead ++ capitals "0x") (capitals (size.hexadecimal d.precision d.alternate))
    | _ => d.inField true lead (capitals (size.general places d.alternate))

end Directive

/-! ## Reading numbers of double precision -/

/-- A number of double precision read from the start of a text. -/
structure RealNumeral where
  /-- The number. -/
  value : Decimal.Value
  /-- Whether it was out of range. -/
  isClamped : Bool := false
  /-- What follows it; all of the text if there is no number. -/
  rest : List Char

namespace RealNumeral

/-- Whether a text begins with a word, in capitals or not; what follows it. -/
def afterWord? (word : String) (cs : List Char) : Option (List Char) :=
  if (cs.take word.length).map Char.toLower == word.toList then some (cs.drop word.length) else none

/-- The greatest exponent that is told apart from any greater one. -/
def exponentLimit : Nat := 20000

/-- The exponent after its letter, and what follows it. -/
def exponent (letter : Char) (cs : List Char) : Int × List Char :=
  match cs with
  | c :: rest =>
    if c.toLower == letter then
      let (isNegative, body) : Bool × List Char :=
        match rest with
        | '-' :: body => (true, body)
        | '+' :: body => (false, body)
        | _ => (false, rest)
      let (ds, after) := Numeral.digits 10 body
      if ds.isEmpty then (0, cs)
      else
        let n : Nat := ds.foldl (fun n d => min exponentLimit (n * 10 + d)) 0
        (if isNegative then -(n : Int) else n, after)
    else (0, cs)
  | [] => (0, [])

/-- A number in a base with a fraction and an exponent; nothing without a digit. -/
def magnitude? (base : Nat) (cs : List Char) : Option (Decimal.Ratio × List Char) :=
  let (whole, rest) := Numeral.digits base cs
  let (fraction, rest) : List Nat × List Char :=
    match rest with
    | '.' :: after =>
      let (ds, after) := Numeral.digits base after
      if whole.isEmpty && ds.isEmpty then ([], rest) else (ds, after)
    | _ => ([], rest)
  if whole.isEmpty && fraction.isEmpty then none
  else
    let n : Nat := (whole ++ fraction).foldl (fun n d => n * base + d) 0
    let (e, rest) := exponent (if base = 16 then 'p' else 'e') rest
    let unit : Decimal.Ratio := (Decimal.Ratio.mk n 1).scale base (-(fraction.length : Int))
    some (unit.scale (if base = 16 then 2 else 10) e, rest)

/-- Reads the number at the start of a text. -/
def read (cs : List Char) : RealNumeral :=
  let body := cs.dropWhile Numeral.isSpace
  let (isNegative, body) : Bool × List Char :=
    match body with
    | '-' :: rest => (true, rest)
    | '+' :: rest => (false, rest)
    | _ => (false, body)
  match afterWord? "infinity" body, afterWord? "inf" body, afterWord? "nan" body with
  | some rest, _, _ | _, some rest, _ => ⟨.infinite isNegative, false, rest⟩
  | _, _, some rest => ⟨.none isNegative, false, rest⟩
  | _, _, _ =>
    let hex? : Option (Decimal.Ratio × List Char) :=
      (afterWord? "0x" body).bind (magnitude? 16)
    match hex?.or (magnitude? 10 body) with
    | none => ⟨.zero, false, cs⟩
    | some (r, rest) =>
      match Decimal.nearest? r with
      | none => ⟨.infinite isNegative, true, rest⟩
      | some d =>
        let isTiny := r.num ≠ 0 && d.mantissa < Decimal.leastMantissa
        ⟨.finite isNegative d, isTiny, rest⟩

end RealNumeral

end CrossBuild.Shell
