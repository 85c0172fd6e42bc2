/-!
# Patterns

A pattern is a text in which `*`, `?` and brackets stand for characters and a
backslash makes the next character stand for itself.  All texts are made of
octets.  `Pattern.fits` compares a pattern with a whole text.
-/
namespace CrossBuild.Shell

/-- A pattern. -/
abbrev Pattern := List Char

namespace Pattern

/-- The classes of characters that brackets may name, with what ends the name. -/
def classes : List (String × (Char → Bool)) :=
  let isVisible (c : Char) : Bool := 0x21 ≤ c.toNat && c.toNat ≤ 0x7e
  [(":alnum:]", Char.isAlphanum), (":cntrl:]", fun c => c.toNat < 0x20 || c.toNat == 0x7f),
    (":lower:]", Char.isLower), (":space:]", fun c => c == ' ' || (9 ≤ c.toNat && c.toNat ≤ 13)),
    (":alpha:]", Char.isAlpha), (":digit:]", Char.isDigit),
    (":print:]", fun c => c == ' ' || isVisible c), (":upper:]", Char.isUpper),
    (":blank:]", fun c => c == ' ' || c == '\t'), (":graph:]", isVisible),
    (":punct:]", fun c => isVisible c && !c.isAlphanum),
    (":xdigit:]", fun c =>
      c.isDigit || ('a' ≤ c && c ≤ 'f') || ('A' ≤ c && c ≤ 'F'))]

/-- The class that a text begins with, and what follows it. -/
def class? (cs : List Char) : Option ((Char → Bool) × List Char) :=
  (classes.find? fun x => x.1.toList.isPrefixOf cs).map fun x => (x.2, cs.drop x.1.length)

/-- The rank of an octet, where the upper half comes before the lower one. -/
def rank (c : Char) : Int :=
  if 128 ≤ c.toNat then (c.toNat : Int) - 256 else c.toNat

/-- Reads brackets after the opening one, for one character: whether it is among what
they name, and what follows them; nothing if they are not closed.  The bound is the
length of the text. -/
def bracketsUpTo (x : Char) : Nat → (found : Bool) → List Char → Option (Bool × List Char)
  | 0, _, _ => none
  | _ + 1, _, [] => none
  | n + 1, found, c :: cs =>
    let goOn (found : Bool) (rest : List Char) : Option (Bool × List Char) :=
      match rest with
      | ']' :: rest => some (found, rest)
      | rest => bracketsUpTo x n found rest
    match (if c == '[' then class? cs else none) with
    | some (p, rest) => goOn (found || p x) rest
    | none =>
      let (c, cs) : Char × List Char :=
        match c, cs with
        | '\\', d :: cs => (d, cs)
        | _, _ => (c, cs)
      match cs with
      | '-' :: d :: rest =>
        if d == ']' then goOn (found || x == c) cs
        else
          let (d, rest) : Char × List Char :=
            match d, rest with
            | '\\', e :: rest => (e, rest)
            | _, _ => (d, rest)
          goOn (found || (rank c ≤ rank x && rank x ≤ rank d)) rest
      | _ => goOn (found || x == c) cs

/-- Compares one character with brackets, from after the opening one; nothing if they
are not closed. -/
def brackets? (x : Char) (cs : List Char) : Option (Bool × List Char) :=
  match cs with
  | '!' :: rest => (bracketsUpTo x (rest.length + 1) false rest).map fun (found, rest) => (!found, rest)
  | _ => bracketsUpTo x (cs.length + 1) false cs

/-- `fits` within a number of steps. -/
def fitsUpTo : Nat → Pattern → List Char → Bool
  | 0, _, _ => false
  | _ + 1, [], text => text.isEmpty
  | n + 1, '\\' :: c :: rest, x :: text => x == c && fitsUpTo n rest text
  | n + 1, '?' :: rest, text =>
    match text with
    | _ :: text => fitsUpTo n rest text
    | [] => false
  | n + 1, '*' :: rest, text =>
    fitsUpTo n rest text ||
      match text with
      | _ :: text => fitsUpTo n ('*' :: rest) text
      | [] => false
  | n + 1, '[' :: rest, x :: text =>
    match brackets? x rest with
    | some (found, rest) => found && fitsUpTo n rest text
    | none => x == '[' && fitsUpTo n rest text
  | n + 1, c :: rest, x :: text => x == c && fitsUpTo n rest text
  | _ + 1, _ :: _, [] => false

/-- Whether a whole text fits a pattern. -/
def fits (p : Pattern) (text : List Char) : Bool :=
  fitsUpTo (p.length + text.length + 1) p text

/-- Whether a text may be more than itself when it is taken as a pattern. -/
def hasStars (cs : List Char) : Bool :=
  cs.any fun c => c == '*' || c == '?' || c == '['

/-! ## Cutting texts

Several texts in one have a NUL after each but the last, and a piece of them is compared up
to its first NUL. -/

/-- The part of a text before its first NUL. -/
def untilNul (cs : List Char) : List Char :=
  cs.takeWhile (· != Char.ofNat 0)

/-- The places where a text may be cut, in the order in which they are tried; from the
front, no place after the first NUL is. -/
def cuts (fromFront : Bool) (text : List Char) : List Nat :=
  if fromFront then List.range ((untilNul text).length + 1)
  else (List.range (text.length + 1)).reverse

/-- How long the shortest or longest start of a text is that fits; zero if none does. -/
def fittingStart (longest : Bool) (p : Pattern) (text : List Char) : Nat :=
  ((cuts (!longest) text).find? fun n => fits p (untilNul (text.take n))).getD 0

/-- How much of a text stands before its shortest or longest end that fits; all of it if
none does. -/
def beforeFittingEnd (longest : Bool) (p : Pattern) (text : List Char) : Nat :=
  ((cuts longest text).find? fun n => fits p (untilNul (text.drop n))).getD text.length

end Pattern

end CrossBuild.Shell
