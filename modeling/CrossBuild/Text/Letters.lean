/-!
# Letter case in names

Names of formats, artifact kinds and the like are written in ASCII and read
without regard to case.  Reading one needs only the characters whose lower
case is ASCII: the capital letters A to Z, and the Kelvin sign, whose lower
case is the letter k.  Every other character stays different from all of
ASCII when it is lowered, so leaving it alone changes no comparison.
-/
namespace CrossBuild.Text

/-- The lower case of a character, where that is an ASCII letter. -/
def lowerChar (c : Char) : Char :=
  if c.toNat = 0x212A then 'k' else c.toLower

/-- A name in lower case. -/
def lowerName (s : String) : String :=
  String.ofList (s.toList.map lowerChar)

end CrossBuild.Text
