import CrossBuild.Files.Error
import CrossBuild.Files.Tree
import CrossBuild.Path

/-!
# What a path denotes

A path is walked segment by segment from the root or from the current
directory.  Empty segments and `.` stay, `..` goes up, a name goes down, and
a link is replaced by the segments of its target, up to a limit.  Every
segment but the last has to be a directory; the last one may be absent, so
that the same walk serves to read and to create.

A path that ends with a separator asks for a directory, which the empty last
segment enforces.
-/
namespace CrossBuild

namespace FileTree

/-- How many links one walk follows. -/
def linkLimit : Nat := 40

/-- The length in bytes of the longest name. -/
def nameLimit : Nat := 255

/-- The length in bytes that no path reaches. -/
def pathLimit : Nat := 4096

/-- The place that segments lead to from the directory `start`.  With
`followLast` a link in last position is followed too. -/
def walk (t : FileTree) (followLast : Bool) (links : Nat) (start : Place) :
    List String → Except FileError Place
  | [] => .ok start
  | segment :: rest =>
    if segment = "" || segment = "." then walk t followLast links start rest
    else if segment = ".." then walk t followLast links start.dropLast rest
    else if nameLimit < segment.utf8ByteSize then .error .nameTooLong
    else
      let place := start ++ [segment]
      match t.lookup? place with
      | none => if rest.all (· == "") then .ok place else .error .notFound
      | some .directory => walk t followLast links place rest
      | some (.file _ _) => if rest.isEmpty then .ok place else .error .notADirectory
      | some (.link target) =>
        if rest.isEmpty && !followLast then .ok place
        else if target = "" then .error .notFound
        else
          match links with
          | 0 => .error .tooManyLinks
          | links + 1 =>
            let path : Path := ⟨target⟩
            walk t followLast links (if path.isAbsolute then [] else start) (path.segments ++ rest)
  termination_by segments => (links, segments.length)

/-- Walks segments from where a path begins: the root, or the current directory. -/
def walkFrom (t : FileTree) (directory : Place) (followLast : Bool) (p : Path)
    (segments : List String) : Except FileError Place :=
  if p.hasNul then .error .pathHasNul
  else if p.text = "" then .error .notFound
  else if pathLimit ≤ p.text.utf8ByteSize then .error .nameTooLong
  else if p.isAbsolute then walk t followLast linkLimit [] segments
  else if t.lookup? directory = some .directory then
    walk t followLast linkLimit directory segments
  else .error .notFound

/-- The place that a path denotes, seen from the current directory. -/
def resolve (t : FileTree) (directory : Place) (p : Path) : Except FileError Place :=
  walkFrom t directory true p p.segments

/-- The entry that a path denotes. -/
def entryAt (t : FileTree) (directory : Place) (p : Path) : Except FileError Entry :=
  match resolve t directory p with
  | .error e => .error e
  | .ok place =>
    match t.lookup? place with
    | some entry => .ok entry
    | none => .error .notFound

/-- The entry that a path denotes if a link in last position counts as itself. -/
def unfollowed? (t : FileTree) (directory : Place) (p : Path) : Option Entry :=
  match walkFrom t directory false p p.segments with
  | .ok place => t.lookup? place
  | .error _ => none

/-- Whether a path denotes anything. -/
def pathExists (t : FileTree) (directory : Place) (p : Path) : Bool :=
  match entryAt t directory p with
  | .ok _ => true
  | .error _ => false

/-- Whether a path denotes a directory. -/
def isDirectory (t : FileTree) (directory : Place) (p : Path) : Bool :=
  match entryAt t directory p with
  | .ok .directory => true
  | _ => false

/-- Whether a path denotes a file that may be run. -/
def isProgram (t : FileTree) (directory : Place) (p : Path) : Bool :=
  match entryAt t directory p with
  | .ok (.file _ executable) => executable
  | _ => false

/-- The bytes of the file that a path denotes. -/
def read (t : FileTree) (directory : Place) (p : Path) : Except FileError ByteArray :=
  match entryAt t directory p with
  | .ok (.file data _) => .ok data
  | .ok _ => .error .isADirectory
  | .error e => .error e

/-! ## Slots

An entry is made, moved or replaced in a slot: an existing directory, and a
name in it. -/

/-- The last part of a path, when it is looked at as a slot. -/
inductive LastPart where
  /-- A name, and whether a separator follows it. -/
  | named (name : String) (separated : Bool)
  /-- A part that names no slot: `.`, `..` or the root itself. -/
  | special
  deriving DecidableEq

/-- The directory of a slot and its last part. -/
def slot (t : FileTree) (directory : Place) (p : Path) : Except FileError (Place × LastPart) :=
  let reversed := p.segments.reverse.dropWhile (· == "")
  let separated := reversed.length != p.segments.length
  let last : LastPart :=
    match reversed with
    | [] => .special
    | s :: _ => if s = "." || s = ".." then .special else .named s separated
  match walkFrom t directory true p reversed.tail.reverse with
  | .error e => .error e
  | .ok parent =>
    match t.lookup? parent with
    | some .directory => .ok (parent, last)
    | some _ => .error .notADirectory
    | none => .error .notFound

end FileTree

end CrossBuild
