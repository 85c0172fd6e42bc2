import CrossBuild.Decimal.Shortest
import CrossBuild.Text.Quoted

/-!
# Values of configuration files

The values that a TOML file can hold, each with the part of the file that it
was read from.
-/
namespace CrossBuild.Toml

/-- A part of a text, given by the number of characters that are left at its
start and at its end. -/
structure Span where
  /-- The characters left at the start. -/
  start : Nat
  /-- The characters left at the end. -/
  stop : Nat
  deriving DecidableEq, Repr

/-- A name in a key, between its dots, with the part of the file that it stands in. -/
structure KeyPart where
  /-- The name. -/
  text : String
  /-- Where it stands. -/
  span : Span
  deriving DecidableEq, Repr

/-- A number with a point, an exponent or a name. -/
inductive Real where
  /-- A number. -/
  | finite (negative : Bool) (size : Decimal.Double)
  /-- An infinity. -/
  | infinite (negative : Bool)
  /-- No number. -/
  | nan
  deriving DecidableEq, Repr

/-- The form in which messages show such a number. -/
def Real.display : Real → String
  | finite negative size => (if negative then "-" else "") ++ size.display
  | infinite negative => if negative then "-inf" else "inf"
  | nan => "NaN"

/-- A value without parts. -/
inductive Scalar where
  /-- A text. -/
  | string (text : String)
  /-- A whole number. -/
  | integer (n : Int)
  /-- Any other number. -/
  | real (x : Real)
  /-- A truth value. -/
  | boolean (b : Bool)
  /-- A date, a time, or both. -/
  | moment
  deriving DecidableEq, Repr

/-- How a table came to be, which decides what may still be added to it. -/
inductive Origin where
  /-- Written between braces; nothing may be added. -/
  | braces
  /-- Opened by its own header. -/
  | header
  /-- Implied by the header of a table below it. -/
  | implied
  /-- Implied by a dotted key. -/
  | dotted
  deriving DecidableEq, Repr

/-- A value. -/
inductive Value where
  /-- A value without parts. -/
  | scalar (span : Span) (s : Scalar)
  /-- Values between brackets. -/
  | array (span : Span) (items : List Value)
  /-- A table, with its entries in the order of the file. -/
  | table (span : Span) (origin : Origin) (entries : List (String × Value))
  /-- The tables that headers in double brackets open, in order. -/
  | tables (items : List Value)

/-- The part of the file that a value was read from.  A table reaches from its header
to its last assignment; a table that is only implied is its name in the key or header that
implies it; and tables in sequence reach from the first to the last. -/
def Value.span : Value → Span
  | scalar span _ | array span _ | table span _ _ => span
  | tables items => ⟨(items.head?.map single).elim 0 Span.start,
      (items.getLast?.map single).elim 0 Span.stop⟩
where
  /-- The part of a value that is no sequence of tables. -/
  single : Value → Span
    | scalar span _ | array span _ | table span _ _ => span
    | tables _ => ⟨0, 0⟩

/-- The form in which messages show a value of the wrong type. -/
def Value.found : Value → String
  | scalar _ (.string text) => "string " ++ Text.quoted text
  | scalar _ (.integer n) => "integer `" ++ toString n ++ "`"
  | scalar _ (.real x) => "floating point `" ++ x.display ++ "`"
  | scalar _ (.boolean b) => "boolean `" ++ (if b then "true" else "false") ++ "`"
  | scalar _ .moment | table _ _ _ => "map"
  | array _ _ | tables _ => "sequence"

end CrossBuild.Toml
