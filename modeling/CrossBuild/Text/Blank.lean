/-!
# Blanks and words

Which characters count as white space, and the three operations that rest
on it: trimming both ends, trimming the end only, and splitting a text into
words.  All of them work on `List Char`; the `String` versions only wrap.

The class is the Unicode property `White_Space`, which is larger than the
class of core's `Char.isWhitespace` (`isBlank_of_isWhitespace`).
-/
namespace CrossBuild.Text

/-- The characters with the Unicode property `White_Space`. -/
def isBlank (c : Char) : Bool :=
  let n := c.toNat
  (0x09 ≤ n && n ≤ 0x0D) || n == 0x20 || n == 0x85 || n == 0xA0 || n == 0x1680 ||
    (0x2000 ≤ n && n ≤ 0x200A) || n == 0x2028 || n == 0x2029 || n == 0x202F ||
    n == 0x205F || n == 0x3000

/-- Every blank of core's class is a blank here. -/
theorem isBlank_of_isWhitespace (c : Char) (h : c.isWhitespace = true) : isBlank c = true := by
  simp only [Char.isWhitespace, Bool.or_eq_true, decide_eq_true_eq] at h
  rcases h with ((h | h) | h) | h <;> subst h <;> decide

/-- A text without the blanks in front. -/
def dropBlanks (cs : List Char) : List Char :=
  cs.dropWhile isBlank

/-- A text without the blanks at its end. -/
def dropBlanksEnd (cs : List Char) : List Char :=
  (dropBlanks cs.reverse).reverse

/-- A text without the blanks at both ends. -/
def trimChars (cs : List Char) : List Char :=
  dropBlanksEnd (dropBlanks cs)

/-- `trimChars` on strings. -/
def trim (s : String) : String :=
  String.ofList (trimChars s.toList)

/-- `dropBlanksEnd` on strings. -/
def trimEnd (s : String) : String :=
  String.ofList (dropBlanksEnd s.toList)

/-- The words of a text that follows the characters `word`, kept in reverse. -/
def wordsAfter : List Char → List Char → List (List Char)
  | word, [] => if word.isEmpty then [] else [word.reverse]
  | word, c :: cs =>
    if isBlank c then
      if word.isEmpty then wordsAfter [] cs else word.reverse :: wordsAfter [] cs
    else wordsAfter (c :: word) cs

/-- The longest runs of characters that are not blank, in order. -/
def words (s : String) : List String :=
  (wordsAfter [] s.toList).map String.ofList

end CrossBuild.Text
