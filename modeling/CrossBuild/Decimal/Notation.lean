import CrossBuild.Decimal.Shortest

/-!
# Notations with a given number of places

A number of double precision written with a given number of places: in fixed
notation, with an exponent of ten, in whichever of the two is shorter, and in
base sixteen.  All rounding is to the nearest, a half goes to the even
neighbour, and all arithmetic is exact.
-/
namespace CrossBuild.Decimal

/-- A number of double precision, or what stands for none. -/
inductive Value where
  /-- A finite number with its sign. -/
  | finite (isNegative : Bool) (size : Double)
  /-- A number out of range. -/
  | infinite (isNegative : Bool)
  /-- No number. -/
  | none (isNegative : Bool)

namespace Value

/-- Zero. -/
def zero : Value := finite false ⟨0, minExponent⟩

/-- A natural number below `2 ^ 53`. -/
def ofNat (n : Nat) : Value :=
  match nearest? ⟨n, 1⟩ with
  | some d => finite false d
  | Option.none => infinite false

/-- Whether there is a minus sign. -/
def isNegative : Value → Bool
  | finite b _ | infinite b | none b => b

end Value

/-- A number as a quotient. -/
def Double.value (d : Double) : Ratio :=
  d.ratio d.mantissa 1

/-- Digits with a point before the last `places` of them; `keepsPoint` asks for the point
even if nothing follows it. -/
def withPoint (places : Nat) (keepsPoint : Bool) (digits : Nat) : String :=
  let text := (toString digits).toList
  let padded := List.replicate (places + 1 - text.length) '0' ++ text
  let whole := padded.take (padded.length - places)
  let fraction := padded.drop (padded.length - places)
  String.ofList (if fraction.isEmpty && !keepsPoint then whole else whole ++ '.' :: fraction)

/-- Fixed notation. -/
def Double.fixed (d : Double) (places : Nat) (keepsPoint : Bool) : String :=
  withPoint places keepsPoint (d.value.scale 10 places).round

/-- The digits of a number other than zero, one before the point and `places` after it,
with the exponent of ten. -/
def Double.scientificDigits (d : Double) (places : Nat) : Nat × Int :=
  let r := d.value
  let bits : Int := (Nat.log2 d.mantissa : Int) + d.exponent
  -- The exponent of ten is this guess or one of its neighbours.
  let guess : Int := (bits * 30103).fdiv 100000
  let fits (e : Int) : Bool := (Ratio.mk 1 1 |>.scale 10 e).le r
  let e := if fits (guess + 1) then guess + 1 else if fits guess then guess else guess - 1
  let n := (r.scale 10 ((places : Int) - e)).round
  if n = Nat.pow 10 (places + 1) then (Nat.pow 10 places, e + 1) else (n, e)

/-- The digits of any number, as `scientificDigits`. -/
def Double.digitsAndExponent (d : Double) (places : Nat) : Nat × Int :=
  if d.mantissa = 0 then (0, 0) else d.scientificDigits places

/-- An exponent with its sign and at least `width` digits. -/
def exponentText (width : Nat) (e : Int) : String :=
  let digits := toString e.natAbs
  (if e < 0 then "-" else "+") ++ String.ofList (List.replicate (width - digits.length) '0') ++ digits

/-- Notation with an exponent of ten. -/
def Double.scientific (d : Double) (places : Nat) (keepsPoint : Bool) : String :=
  let (n, e) := d.digitsAndExponent places
  withPoint places keepsPoint n ++ "e" ++ exponentText 2 e

/-- A numeral without the zeros at the end of its fraction. -/
def withoutZeros (s : String) : String :=
  if s.toList.contains '.' then
    let cs := (s.toList.reverse.dropWhile (· == '0'))
    String.ofList (match cs with
      | '.' :: rest => rest
      | cs => cs).reverse
  else s

/-- Fixed notation or notation with an exponent, by the size of the number; `digits` is
the number of digits that count. -/
def Double.general (d : Double) (digits : Nat) (keepsZeros : Bool) : String :=
  let digits := max digits 1
  let (n, e) := d.digitsAndExponent (digits - 1)
  if -4 ≤ e && e < digits then
    let text := d.fixed ((digits : Int) - 1 - e).toNat keepsZeros
    if keepsZeros then text else withoutZeros text
  else
    let text := withPoint (digits - 1) keepsZeros n
    (if keepsZeros then text else withoutZeros text) ++ "e" ++ exponentText 2 e

/-- The digits of a number in base sixteen. -/
def hexDigits (n : Nat) : String :=
  String.ofList (Nat.toDigits 16 n)

/-- Notation in base sixteen, with an exponent of two; without a number of places, as many
as the number has. -/
def Double.hexadecimal (d : Double) (places : Option Nat) (keepsPoint : Bool) : String :=
  let whole := d.mantissa / leastMantissa
  let exponent : Int := if d.mantissa = 0 then 0 else d.exponent + 52
  let (whole, fraction) : Nat × List Char :=
    match places with
    | Option.none =>
      let digits := Nat.toDigits 16 (d.mantissa % leastMantissa)
      let padded := List.replicate (13 - digits.length) '0' ++ digits
      (whole, (padded.reverse.dropWhile (· == '0')).reverse)
    | some places =>
      let kept := min places 13
      let unit := Nat.pow 16 kept
      let n := (Ratio.mk (d.mantissa * unit) leastMantissa).round
      let digits := Nat.toDigits 16 (n % unit)
      let padded := if kept = 0 then [] else List.replicate (kept - digits.length) '0' ++ digits
      (n / unit, padded ++ List.replicate (places - kept) '0')
  toString whole ++ (if fraction.isEmpty && !keepsPoint then "" else "." ++ String.ofList fraction) ++
    "p" ++ exponentText 1 exponent

end CrossBuild.Decimal
