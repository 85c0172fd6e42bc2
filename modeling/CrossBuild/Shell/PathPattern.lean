import CrossBuild.Files.Lookup
import CrossBuild.Shell.Pattern
import CrossBuild.Text.Octets

/-!
# Patterns of paths

The paths in a tree that a pattern stands for, in order.  Every part between
separators is a pattern of its own; the first part that is one is compared
with the names in the directory before it, and the rest is looked up below
each name that fits.  A leading dot has to be written out.
-/
namespace CrossBuild.Shell.PathPattern

/-- Whether brackets are closed before the next separator, from after the opening one.
The first character inside them closes nothing. -/
def closes : List Char → Bool
  | '\\' :: c :: d :: rest => c != '/' && (d == ']' || closes (d :: rest))
  | ['\\', _] => false
  | c :: d :: rest => c != '/' && (d == ']' || closes (d :: rest))
  | _ => false

/-- A pattern without its escapes. -/
def unescape : Pattern → List Char
  | '\\' :: c :: rest => c :: unescape rest
  | c :: rest => c :: unescape rest
  | [] => []

/-- A pattern cut at its first part that may stand for several names. -/
structure Cut where
  /-- What stands before the part, the last character first. -/
  before : List Char := []
  /-- The part, the last character first. -/
  part : List Char := []
  /-- Whether the part may stand for several names. -/
  isPattern : Bool := false
  /-- What follows the part and its separator, if there is one. -/
  rest : Option Pattern := none

/-- Cuts a pattern, where the cut up to some place is known. -/
def cutFrom (c : Cut) : Pattern → Cut
  | [] => c
  | '\\' :: '/' :: rest =>
    if c.isPattern then { c with rest := some rest }
    else cutFrom { c with before := '/' :: '\\' :: (c.part ++ c.before), part := [] } rest
  | '\\' :: x :: rest => cutFrom { c with part := x :: '\\' :: c.part } rest
  | '/' :: rest =>
    if c.isPattern then { c with rest := some rest }
    else cutFrom { c with before := '/' :: (c.part ++ c.before), part := [] } rest
  | x :: rest =>
    let isPattern := c.isPattern || x == '*' || x == '?' ||
      (x == '[' && closes (if rest.head? == some '!' then rest.tail else rest))
    cutFrom { c with part := x :: c.part, isPattern } rest

/-- The names that may fit, in a directory. -/
def namesIn (t : FileTree) (directory : Place) (path : String) : List String :=
  match t.resolve directory ⟨Octets.toText (if path = "" then "." else path)⟩ with
  | .error _ => []
  | .ok place =>
    if t.lookup? place = some .directory then "." :: ".." :: (t.children place).map Octets.ofText
    else []

/-- Whether a path leads to an entry, which may be a link that leads nowhere. -/
def leadsSomewhere (t : FileTree) (directory : Place) (path : String) : Bool :=
  (t.unfollowed? directory ⟨Octets.toText path⟩).isSome

/-- The paths that begin with `before` and go on with what a pattern stands for.  The
bound is the length of the pattern. -/
def expandFrom (t : FileTree) (directory : Place) : Nat → (before : String) → Pattern → List String
  | 0, _, _ => []
  | n + 1, before, p =>
    let c := cutFrom {} p
    if !c.isPattern then
      let path := before ++ String.ofList (unescape p)
      if before != "" && leadsSomewhere t directory path then [path] else []
    else
      let start := before ++ String.ofList (unescape c.before.reverse)
      let part := c.part.reverse
      let mayHide : Bool :=
        match part with
        | '\\' :: '.' :: _ | '.' :: _ => true
        | _ => false
      let names := (namesIn t directory start).filter fun name =>
        (mayHide || name.toList.head? != some '.') && Pattern.fits part name.toList
      match c.rest with
      | none => names.map (start ++ ·)
      | some rest => names.flatMap fun name => expandFrom t directory n (start ++ name ++ "/") rest

/-- The paths that a pattern stands for, in order. -/
def expand (t : FileTree) (directory : Place) (p : Pattern) : List String :=
  (expandFrom t directory (p.length + 1) "" p).mergeSort fun a b => decide (a ≤ b)

end CrossBuild.Shell.PathPattern
