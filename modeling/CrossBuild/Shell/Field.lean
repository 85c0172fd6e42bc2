import CrossBuild.Shell.WordReader

/-!
# Fields

What a word has become after its substitutions: characters that know whether
they were quoted, and the stretches of them that came from substitutions and
so are split.  `Draft.split` splits them into fields; `patternOf` and
`textOf` read a field as a pattern or as plain text.
-/
namespace CrossBuild.Shell

/-- A character of a word, or a quote mark. -/
inductive Glyph where
  /-- A character that was not quoted. -/
  | plain (c : Char)
  /-- A character that stands for itself. -/
  | escaped (c : Char)
  /-- A quote mark, which keeps an empty field alive. -/
  | mark
  deriving DecidableEq, Inhabited

namespace Glyph

/-- The character of a glyph. -/
def char? : Glyph → Option Char
  | plain c | escaped c => some c
  | mark => none

end Glyph

/-- The text of glyphs. -/
def textOf (gs : List Glyph) : String :=
  String.ofList (gs.filterMap Glyph.char?)

/-- The pattern of glyphs: what was quoted is escaped.  A backslash that was not quoted
escapes what follows it already. -/
def patternOf (gs : List Glyph) : List Char :=
  go true gs
where
  /-- The pattern, where `free` says that no backslash stands before it. -/
  go (free : Bool) : List Glyph → List Char
    | [] => []
    | .mark :: rest => go true rest
    | .plain c :: rest => c :: go (c != '\\') rest
    | .escaped c :: rest => if free then '\\' :: c :: go true rest else c :: go true rest

/-- A stretch of a word that is split. -/
structure Stretch where
  /-- Where it begins. -/
  start : Nat
  /-- Where it ends. -/
  stop : Nat
  /-- Whether it is split between arguments only. -/
  isQuoted : Bool

/-- A word after its substitutions. -/
structure Expanded where
  /-- Its glyphs. -/
  glyphs : Array Glyph := #[]
  /-- The stretches that are split, the last one first. -/
  stretches : List Stretch := []

namespace Expanded

/-- The number of glyphs. -/
def size (e : Expanded) : Nat :=
  e.glyphs.size

/-- Adds a glyph. -/
def push (e : Expanded) (g : Glyph) : Expanded :=
  { e with glyphs := e.glyphs.push g }

/-- Records that the glyphs from a place on are split. -/
def record (e : Expanded) (start : Nat) (isQuoted : Bool) : Expanded :=
  { e with stretches := ⟨start, e.size, isQuoted⟩ :: e.stretches }

/-- The glyphs as plain text. -/
def text (e : Expanded) : String :=
  textOf e.glyphs.toList

end Expanded

/-! ## Splitting -/

/-- The blanks that separate fields unless it is said otherwise. -/
def defaultSeparators : String := " \t\n"

/-- The state of a splitter between two glyphs. -/
structure Splitter where
  /-- Where the field begins. -/
  start : Nat := 0
  /-- Whether a blank has just ended a field, so that more blanks say nothing. -/
  afterBlank : Bool := false
  /-- Where the part begins that is cut off the last field. -/
  cut : Option Nat := none
  /-- How many more fields there may be; none is no limit. -/
  room : Option Nat
  /-- The fields, the last one first, each with its begin and its end. -/
  fields : List (Nat × Nat) := []

namespace Splitter

/-- Reads one glyph: `separates` says that it separates fields, `isBlank` that it is one of
the blanks that do, `mayJoin` that several blanks are as good as one here. -/
def step (separates isBlank mayJoin : Bool) (s : Splitter) (place : Nat) : Splitter :=
  if s.room = some 0 then
    if isBlank then { s with cut := s.cut.or (some place) }
    else
      { s with
        cut := if separates && s.afterBlank then s.cut else none
        afterBlank := false }
  else if s.afterBlank then
    -- The next field begins after the blanks, and after one separator among them that is none.
    let s := { s with start := if separates then place + 1 else place }
    if isBlank then s else { s with afterBlank := false }
  else if separates then
    let s := if mayJoin then { s with afterBlank := isBlank } else s
    if place = s.start && s.afterBlank then { s with start := place + 1, afterBlank := false }
    else
      let room := s.room.map (· - 1)
      if room = some 0 then { s with room, cut := some place }
      else { s with room, fields := (s.start, place) :: s.fields, start := place + 1 }
  else { s with afterBlank := false }

/-- Reads the glyphs of a stretch from a place on; the bound is their number. -/
def readStretch (glyphs : Array Glyph) (separators : List Char) (mayJoin : Bool) :
    Nat → Nat → Splitter → Splitter
  | 0, _, s => s
  | n + 1, place, s =>
    let c? := glyphs[place]?.bind Glyph.char?
    let isNul := c? == some (Char.ofNat 0)
    let separates := isNul || c?.any separators.contains
    let isBlank := separates && (isNul || c?.any defaultSeparators.toList.contains)
    readStretch glyphs separators mayJoin n (place + 1) (s.step separates isBlank mayJoin place)

/-- Reads stretches, in order; `wasQuoted` says that the last one was split between
arguments only, which the second value says in the end. -/
def readAll (glyphs : Array Glyph) (separators : List Char) :
    (wasQuoted : Bool) → List Stretch → Splitter → Splitter × Bool
  | wasQuoted, [], s => (s, wasQuoted)
  | wasQuoted, x :: rest, s =>
    let s := readStretch glyphs (if x.isQuoted then [] else separators)
      (!wasQuoted && !x.isQuoted) (x.stop - x.start) x.start { s with afterBlank := false }
    readAll glyphs separators x.isQuoted rest s

end Splitter

/-- The part of a list of glyphs before the first character that ends texts. -/
def beforeNul (gs : List Glyph) : List Glyph :=
  gs.takeWhile fun g => g != .plain (Char.ofNat 0)

namespace Expanded

/-- The fields of a word, at most `room` of them if that is given: then the last one holds
the rest of the word without the separators at its end. -/
def split (e : Expanded) (separators : String) (room : Option Nat) : List (List Glyph) :=
  let (s, wasQuoted) := Splitter.readAll e.glyphs separators.toList false e.stretches.reverse
    { room }
  let field (start stop : Nat) : List Glyph :=
    beforeNul (e.glyphs.extract start stop).toList
  let last := field s.start (s.cut.getD e.size)
  let fields := s.fields.reverse.map fun (start, stop) => field start stop
  if wasQuoted || !last.isEmpty then fields ++ [last] else fields

end Expanded

end CrossBuild.Shell
