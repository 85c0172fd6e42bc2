/-!
# Numbers of double precision

A number of double precision is `m · 2 ^ q` with `m` below `2 ^ 53`.  A
decimal numeral is read as the nearest such number, and written back with
the fewest digits that are read as the same number; of two such numerals the
nearer one is taken.

Everything is exact arithmetic on natural numbers: a value is kept as a
quotient, and compared by cross-multiplication.
-/
namespace CrossBuild.Decimal

/-- A finite number `mantissa · 2 ^ exponent`, without its sign. -/
structure Double where
  /-- The mantissa, below `2 ^ 53`. -/
  mantissa : Nat
  /-- The exponent of two. -/
  exponent : Int
  deriving DecidableEq, Repr

/-- A positive quotient. -/
structure Ratio where
  /-- The numerator. -/
  num : Nat
  /-- The denominator. -/
  den : Nat
  deriving DecidableEq, Repr

namespace Ratio

/-- The quotient times a power of a base. -/
def scale (r : Ratio) (base : Nat) (exponent : Int) : Ratio :=
  match exponent with
  | .ofNat n => ⟨r.num * Nat.pow base n, r.den⟩
  | .negSucc n => ⟨r.num, r.den * Nat.pow base (n + 1)⟩

/-- The order of quotients. -/
def le (r s : Ratio) : Bool :=
  r.num * s.den ≤ s.num * r.den

/-- The whole part. -/
def floor (r : Ratio) : Nat :=
  r.num / r.den

/-- The nearest whole number; a half goes to the even one. -/
def round (r : Ratio) : Nat :=
  let whole := r.num / r.den
  let twice := 2 * (r.num % r.den)
  if twice < r.den || (twice = r.den && whole % 2 = 0) then whole else whole + 1

end Ratio

/-- The least mantissa of 53 bits, `2 ^ 52`. -/
def leastMantissa : Nat := 4503599627370496

/-- The least exponent of two. -/
def minExponent : Int := -1074

/-- The greatest exponent of two. -/
def maxExponent : Int := 971

/-- The exponent under which a quotient has a mantissa of 53 bits: the bits of
numerator and denominator give it up to one. -/
def exponentOf (r : Ratio) : Int :=
  let guess : Int := (Nat.log2 r.num : Int) - (Nat.log2 r.den : Int) - 52
  let exponent := if leastMantissa ≤ (r.scale 2 (-guess)).floor then guess else guess - 1
  max exponent minExponent

/-- The nearest number to a quotient; none if it is out of range. -/
def nearest? (r : Ratio) : Option Double :=
  if r.num = 0 then some ⟨0, minExponent⟩
  else
    let exponent := exponentOf r
    let mantissa := (r.scale 2 (-exponent)).round
    let d : Double :=
      if mantissa = 2 * leastMantissa then ⟨leastMantissa, exponent + 1⟩ else ⟨mantissa, exponent⟩
    if maxExponent < d.exponent then none else some d

/-- A number as a quotient, in units of `1 / unit` of its last bit. -/
def Double.ratio (d : Double) (count unit : Nat) : Ratio :=
  (Ratio.mk count unit).scale 2 d.exponent

/-- Whether a quotient is read as this number: it lies no further from it than
half the way to its neighbours, the very middle counting when the mantissa
is even. -/
def Double.reads (d : Double) (r : Ratio) : Bool :=
  let below := if d.mantissa = leastMantissa && minExponent < d.exponent then 1 else 2
  let low := d.ratio (4 * d.mantissa - below) 4
  let high := d.ratio (4 * d.mantissa + 2) 4
  if d.mantissa % 2 = 0 then low.le r && r.le high else !r.le low && !high.le r

/-- The numeral of the grid `10 ^ e` that is read as the number, if there is one. -/
def Double.onGrid? (d : Double) (e : Int) : Option Nat :=
  let value := (d.ratio d.mantissa 1).scale 10 (-e)
  let low := value.floor
  let reads (n : Nat) : Bool := d.reads ((Ratio.mk n 1).scale 10 e)
  let nearer := value.round
  if reads nearer then some nearer
  else if reads low then some low
  else if reads (low + 1) then some (low + 1)
  else none

/-- The shortest numeral, as its digits and the exponent of ten, from the
coarsest grid on. -/
def Double.shortestFrom (d : Double) : Nat → Int → Nat × Int
  | 0, e => (((d.ratio d.mantissa 1).scale 10 (-e)).round, e)
  | n + 1, e =>
    match d.onGrid? e with
    | some 0 | none => d.shortestFrom n (e - 1)
    | some digits => (digits, e)

/-- The shortest numeral of a number other than zero. -/
def Double.shortest (d : Double) : Nat × Int :=
  let bits : Int := (Nat.log2 d.mantissa : Int) + d.exponent
  d.shortestFrom 400 (bits * 3 / 10 + 2)

/-- A numeral written without an exponent, always with a decimal point. -/
def positional (digits : Nat) (exponent : Int) : String :=
  let text := (toString digits).toList
  match exponent with
  | .ofNat n => String.ofList (text ++ List.replicate n '0') ++ ".0"
  | .negSucc n =>
    let padded := List.replicate (n + 2 - text.length) '0' ++ text
    let whole := padded.take (padded.length - (n + 1))
    String.ofList (whole ++ '.' :: padded.drop (padded.length - (n + 1)))

/-- A number in its shortest form. -/
def Double.display (d : Double) : String :=
  if d.mantissa = 0 then "0.0"
  else
    let (digits, exponent) := d.shortest
    positional digits exponent

end CrossBuild.Decimal
