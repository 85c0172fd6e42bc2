/-!
# Ranges of characters

The lookup that the tables of character properties share.
-/
namespace CrossBuild.Text

/-- Whether a character lies in one of the ranges, ends included. -/
def inRanges (ranges : List (Nat × Nat)) (c : Char) : Bool :=
  ranges.any fun r => r.1 ≤ c.toNat && c.toNat ≤ r.2

end CrossBuild.Text
