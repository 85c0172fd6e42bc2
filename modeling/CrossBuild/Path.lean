import CrossBuild.Text.Search

/-!
# Path texts

A path is the text its user wrote.  Joining, taking the parent and replacing
the extension edit that text and never normalise it, so a message shows the
path the way it was given; only `Path.components` reads through repeated
separators and inner `.` parts.

Nothing here looks at a file system: what a path denotes is decided by
`CrossBuild.Files`.
-/
namespace CrossBuild

/-- A path, as written. -/
structure Path where
  /-- The text of the path. -/
  text : String
  deriving DecidableEq, Repr, Inhabited

namespace Path

/-- The character between the parts of a path. -/
def separator : Char := '/'

/-! ## 1. Parts -/

/-- One part of a path, as it matters to what the path denotes. -/
inductive Component where
  /-- The separator that an absolute path begins with. -/
  | root
  /-- A `.` that a relative path begins with. -/
  | here
  /-- A `..`. -/
  | up
  /-- An ordinary name. -/
  | name (text : String)
  deriving DecidableEq, Repr

/-- The texts between the separators, empty ones included. -/
def segments (p : Path) : List String :=
  Text.splitOn separator p.text

/-- Whether a path begins with a separator. -/
def isAbsolute (p : Path) : Bool :=
  p.text.toList.head? == some separator

/-- Whether a path holds the character that ends texts for the system. -/
def hasNul (p : Path) : Bool :=
  p.text.toList.contains (Char.ofNat 0)

/-- The component that a segment after the first stands for. -/
def innerComponent? (segment : String) : Option Component :=
  if segment = "" || segment = "." then none
  else if segment = ".." then some .up
  else some (.name segment)

/-- The components of a path.  Empty segments count for nothing, and so does
a `.` unless a relative path begins with it. -/
def components (p : Path) : List Component :=
  match p.segments with
  | [] => []
  | first :: rest =>
    (if p.isAbsolute then [.root]
      else if first = "." then [.here]
      else (innerComponent? first).toList) ++ rest.filterMap innerComponent?

/-- The place of a component's kind in the order of components. -/
def Component.rank : Component → Nat
  | root => 0
  | here => 1
  | up => 2
  | name _ => 3

/-- Whether a component stands before another: by its kind, and names by their text. -/
def Component.isBefore : Component → Component → Bool
  | name s, name t => s < t
  | c, d => c.rank < d.rank

/-- Whether components stand before others: at the first difference, or where the first
are at their end. -/
def componentsBefore : List Component → List Component → Bool
  | [], ds => !ds.isEmpty
  | _ :: _, [] => false
  | c :: cs, d :: ds => c.isBefore d || (c == d && componentsBefore cs ds)

/-- Whether a path stands before another in a sorted list. -/
def isBefore (p q : Path) : Bool :=
  componentsBefore p.components q.components

/-! ## 2. Joining -/

/-- Joins a path onto another: an absolute one replaces it, any other one
follows it after a separator, unless the first is empty or ends with one. -/
def join (p q : Path) : Path :=
  if q.isAbsolute then q
  else if p.text = "" || p.text.toList.getLast? == some separator then ⟨p.text ++ q.text⟩
  else ⟨p.text ++ separator.toString ++ q.text⟩

/-- Joins any number of parts onto a path, in order. -/
def joinAll (p : Path) (parts : List Path) : Path :=
  parts.foldl join p

/-- Joins one component onto a path. -/
def joinComponent (p : Path) : Component → Path
  | .root => ⟨"/"⟩
  | .here => p.join ⟨"."⟩
  | .up => p.join ⟨".."⟩
  | .name s => p.join ⟨s⟩

/-- The path `p` seen from the directory `base`: itself if it is absolute, and
otherwise its components, without the `.` it may begin with, below `base`. -/
def absoluteFrom (p base : Path) : Path :=
  if p.isAbsolute then p
  else (p.components.dropWhile (· == .here)).foldl joinComponent base

/-! ## 3. The last part

The three operations below read a path from its end, so they work on the
reversed text. -/

/-- Drops what counts for nothing at the end of a path, read backwards:
separators and `.` segments.  The first `root` characters of the path, its
leading separator or leading `.`, are kept.  The bound `n` is the length of
the text. -/
def dropTrailing (root : Nat) : Nat → List Char → List Char
  | 0, cs => cs
  | n + 1, cs =>
    if cs.length ≤ root then cs
    else
      match cs with
      | '/' :: rest => dropTrailing root n rest
      | '.' :: '/' :: rest => dropTrailing root n ('/' :: rest)
      | _ => cs

/-- The length of the part of a path that is never dropped from its end: the
leading separator of an absolute path, the leading `.` of a relative one. -/
def fixedLength (p : Path) : Nat :=
  match p.components.head? with
  | some .root | some .here => 1
  | _ => 0

/-- The reversed text of a path without what counts for nothing at its end. -/
def trimmedReverse (p : Path) : List Char :=
  let cs := p.text.toList.reverse
  dropTrailing p.fixedLength cs.length cs

/-- The path without its last component; none for the root and for the empty path. -/
def parent? (p : Path) : Option Path :=
  match p.components.getLast? with
  | none | some .root => none
  | some .here => some ⟨""⟩
  | some _ =>
    let before := p.trimmedReverse.dropWhile (· != separator)
    some ⟨String.ofList (dropTrailing p.fixedLength before.length before).reverse⟩

/-- The last component, when it is an ordinary name. -/
def fileName? (p : Path) : Option String :=
  match p.components.getLast? with
  | some (.name s) => some s
  | _ => none

/-- A file name without its extension: everything before the last dot, or the
whole name if it has no dot or none after its first character. -/
def stemOf (name : List Char) : List Char :=
  match name.reverse.dropWhile (· != '.') with
  | [] | [_] => name
  | _ :: stem => stem.reverse

/-- The path up to the dot before the extension of its file name, unless something
follows the file name. -/
def cutExtension (p : Path) : Path :=
  match p.fileName? with
  | none => p
  | some name =>
    let cs := p.text.toList
    let extension := name.toList.length - (stemOf name.toList).length - 1
    if p.trimmedReverse.length = cs.length then ⟨String.ofList (cs.take (cs.length - extension))⟩
    else p

/-- Replaces the extension of the file name, or adds one.  What follows the file
name is dropped.  The old extension goes first, and what has no file name then, such as
`..` out of `..x`, stays as it is. -/
def withExtension (p : Path) (extension : String) : Path :=
  let p := p.cutExtension
  match p.fileName? with
  | none => p
  | some name =>
    let directory := (p.trimmedReverse.drop name.toList.length).reverse
    ⟨String.ofList (directory ++ stemOf name.toList ++ '.' :: extension.toList)⟩

end Path

end CrossBuild
