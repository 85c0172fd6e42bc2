/-!
# Finding one text in another

Prefixes, suffixes, first occurrences and splits on `List Char`, for texts
whose pattern is a fixed list of characters.
-/
namespace CrossBuild.Text

/-- What follows `pattern` at the start of a text, if it starts with it. -/
def after? : List Char → List Char → Option (List Char)
  | [], cs => some cs
  | _ :: _, [] => none
  | p :: ps, c :: cs => if p = c then after? ps cs else none

/-- A text starts with `pattern` exactly when it is `pattern` followed by the rest. -/
theorem after?_eq_some_iff {pattern cs rest : List Char} :
    after? pattern cs = some rest ↔ cs = pattern ++ rest := by
  induction pattern generalizing cs with
  | nil => simp [after?]
  | cons p ps ih =>
    cases cs with
    | nil => simp [after?]
    | cons c cs =>
      by_cases h : p = c
      · simp [after?, h, ih]
      · simp [after?, h, Ne.symm h]

/-- What precedes `pattern` at the end of a text, if it ends with it. -/
def before? (pattern cs : List Char) : Option (List Char) :=
  (after? pattern.reverse cs.reverse).map List.reverse

/-- Whether `pattern` occurs anywhere in a text. -/
def occursIn (pattern : List Char) : List Char → Bool
  | [] => pattern.isEmpty
  | c :: cs => (after? pattern (c :: cs)).isSome || occursIn pattern cs

/-- `pattern` occurs in a text exactly when the text is made around it. -/
theorem occursIn_eq_true_iff {pattern cs : List Char} :
    occursIn pattern cs = true ↔ pattern <:+: cs := by
  induction cs with
  | nil => simp [occursIn]
  | cons c cs ih =>
    have hstart : (after? pattern (c :: cs)).isSome = true ↔ pattern <+: c :: cs := by
      rw [Option.isSome_iff_exists]
      simp only [after?_eq_some_iff]
      constructor
      · intro ⟨rest, h⟩
        exact ⟨rest, h.symm⟩
      · intro ⟨rest, h⟩
        exact ⟨rest, h.symm⟩
    rw [occursIn, Bool.or_eq_true, hstart, ih, List.infix_cons_iff]

/-- Whether one string contains another. -/
def contains (text pattern : String) : Bool :=
  occursIn pattern.toList text.toList

/-- Whether one string starts with another. -/
def startsWith (text pattern : String) : Bool :=
  pattern.toList.isPrefixOf text.toList

/-- Whether one string ends with another. -/
def endsWith (text pattern : String) : Bool :=
  pattern.toList.isSuffixOf text.toList

/-- The pieces of a text between the occurrences of one character, after the
characters `piece` kept in reverse. -/
def splitAfter (sep : Char) : List Char → List Char → List (List Char)
  | piece, [] => [piece.reverse]
  | piece, c :: cs =>
    if c = sep then piece.reverse :: splitAfter sep [] cs else splitAfter sep (c :: piece) cs

/-- The pieces of a text between the occurrences of one character.  There is
one more piece than occurrences, so the empty text has one empty piece. -/
def splitOn (sep : Char) (s : String) : List String :=
  (splitAfter sep [] s.toList).map String.ofList

/-- A list of texts with `sep` between neighbours. -/
def joinWith (sep : String) : List String → String
  | [] => ""
  | [s] => s
  | s :: rest => s ++ sep ++ joinWith sep rest

end CrossBuild.Text
