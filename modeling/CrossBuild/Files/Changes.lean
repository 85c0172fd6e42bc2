import CrossBuild.Files.Lookup

/-!
# Changes of a tree

Making directories, writing, copying and moving files, each as a function
from a tree to the changed tree or to the cause for which nothing changed.
-/
namespace CrossBuild

namespace FileTree

/-! ## 1. Directories -/

/-- Makes one directory; its parent has to exist. -/
def makeDirectory (t : FileTree) (directory : Place) (p : Path) : Except FileError FileTree :=
  match slot t directory p with
  | .error e => .error e
  | .ok (_, .special) => .error .alreadyExists
  | .ok (parent, .named name _) =>
    if nameLimit < name.utf8ByteSize then .error .nameTooLong
    else
      let place := parent ++ [name]
      if (t.lookup? place).isSome then .error .alreadyExists
      else .ok (t.put place .directory)

/-- Makes a directory and those of its parents that are missing.  A directory
that is there already is as good as a new one.  The changes made before a
failure stay, so the tree is returned in both cases.  The bound `n` is the
number of parents to try. -/
def makeDirectoriesUpTo (directory : Place) : Nat → FileTree → Path → Except FileError Unit × FileTree
  | n, t, p =>
    if p.text = "" then (.ok (), t)
    else
      match makeDirectory t directory p with
      | .ok made => (.ok (), made)
      | .error e =>
        if e ≠ .notFound then (if isDirectory t directory p then .ok () else .error e, t)
        else
          match n, p.parent? with
          | n + 1, some parent =>
            match makeDirectoriesUpTo directory n t parent with
            | (.error e, t) => (.error e, t)
            | (.ok _, t) =>
              match makeDirectory t directory p with
              | .ok made => (.ok (), made)
              | .error e => (if isDirectory t directory p then .ok () else .error e, t)
          | _, _ => (.error (.other "failed to create whole tree"), t)

/-- `makeDirectoriesUpTo` with as many parents as the path can have. -/
def makeDirectories (t : FileTree) (directory : Place) (p : Path) :
    Except FileError Unit × FileTree :=
  makeDirectoriesUpTo directory p.text.length t p

/-! ## 2. Files -/

/-- Writes a file: its bytes are replaced, and it is made if it was absent.
An existing file keeps its permission unless a new one is given. -/
def write (t : FileTree) (directory : Place) (p : Path) (data : ByteArray)
    (executable : Option Bool) : Except FileError FileTree :=
  match resolve t directory p with
  | .error e => .error e
  | .ok place =>
    match t.lookup? place with
    | some (.file _ old) => .ok (t.put place (.file data (executable.getD old)))
    | some _ => .error .isADirectory
    | none =>
      if p.text.toList.getLast? == some Path.separator then .error .isADirectory
      else .ok (t.put place (.file data (executable.getD false)))

/-- Copies a file with its permission.  The target is emptied before anything
is read, so a file copied onto itself ends empty. -/
def copy (t : FileTree) (directory : Place) (source target : Path) : Except FileError FileTree :=
  match entryAt t directory source with
  | .error e => .error e
  | .ok (.file _ executable) =>
    match write t directory target ByteArray.empty (some executable) with
    | .error e => .error e
    | .ok emptied =>
      match read emptied directory source with
      | .error e => .error e
      | .ok data => write emptied directory target data (some executable)
  | .ok _ => .error .notARegularFile

/-! ## 3. Moving -/

/-- Whether the entry at the target may be replaced by the one at the source. -/
def mayReplace (t : FileTree) (source target : Place) : Except FileError Unit :=
  match t.lookup? source, t.lookup? target with
  | some .directory, some .directory =>
    if (t.children target).isEmpty then .ok () else .error .notEmpty
  | some .directory, some _ => .error .notADirectory
  | _, some .directory => .error .isADirectory
  | _, _ => .ok ()

/-- Moves an entry, with everything below it, to another slot.  Moving an
entry to where it is changes nothing.  A name in either slot is looked up, so
neither may be too long; that the entry is there is seen before its new name. -/
def rename (t : FileTree) (directory : Place) (source target : Path) :
    Except FileError FileTree :=
  if target.hasNul then .error .pathHasNul
  else
    match slot t directory source, slot t directory target with
    | .error e, _ | _, .error e => .error e
    | .ok (sourceParent, sourceLast), .ok (targetParent, targetLast) =>
      match sourceLast, targetLast with
      | .named sourceName sourceSeparated, .named targetName targetSeparated =>
        let s := sourceParent ++ [sourceName]
        let d := targetParent ++ [targetName]
        if nameLimit < sourceName.utf8ByteSize then .error .nameTooLong
        else
          match t.lookup? s with
          | none => .error .notFound
          | some entry =>
            if nameLimit < targetName.utf8ByteSize then .error .nameTooLong
            else if !entry.isDirectory && (sourceSeparated || targetSeparated) then
              .error .notADirectory
            else if s.isPrefixOf targetParent then .error .invalidArgument
            else if d.isPrefixOf sourceParent then .error .notEmpty
            else if s = d then .ok t
            else
              match mayReplace t s d with
              | .error e => .error e
              | .ok _ => .ok (t.move s d)
      | _, _ => .error .busy

end FileTree

end CrossBuild
