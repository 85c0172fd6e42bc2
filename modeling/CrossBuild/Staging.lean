import CrossBuild.Machine

/-!
# Staging

A fixture is copied into the directory of a scenario before anything runs.
The scripts that drive scenarios, and the metadata of version control, stay
behind, directories among them with all that is below.

Moving an entry within a scenario's directory is here as well.
-/
namespace CrossBuild.Staging

/-- Whether an entry of a fixture stays behind, by its name. -/
def isExcluded (name : String) : Bool :=
  Text.startsWith name "gyptest" || name == ".svn" || name == ".git"

/-! ## 1. One entry -/

/-- Where an entry of a fixture is, by the names that lead to it from the fixture. -/
def sourcePath (source : Path) (relative : Place) : Path :=
  source.joinAll (relative.map Path.mk)

/-- Where an entry of a fixture is staged. -/
def targetPath (target : Path) (relative : Place) : Path :=
  target.join ⟨"/".intercalate relative⟩

/-- Stages one entry, a directory or a file; the result is the number of files copied. -/
def copyEntry (source target : Path) (relative : Place) (isDirectory : Bool) : Operation Nat := do
  let from_ := sourcePath source relative
  let to_ := targetPath target relative
  if isDirectory then
    ensureDirectory to_
    return 0
  else
    changeFiles (.copyFile from_ to_) fun t directory => t.copy directory from_ to_
    return 1

/-! ## 2. The walk -/

/-- The entries to stage of a directory, as they are when it is opened: their names, and
whether they are directories themselves. -/
def openDirectory (source : Path) (relative : Place) : Operation (List (String × Bool)) := do
  let m ← getThe Machine
  match m.files.resolve m.directory (sourcePath source relative) with
  | .error e => throw (.walkFixture source (sourcePath source relative) e)
  | .ok place =>
    let names := (m.files.children place).filter fun name => !isExcluded name
    return names.map fun name => (name, m.files.lookup? (place ++ [name]) == some .directory)

/-- Goes through entries one after the other; the result is the number of files copied. -/
def copyAll (copyOne : String × Bool → Operation Nat) : List (String × Bool) → Operation Nat
  | [] => return 0
  | x :: rest => do
    let first ← copyOne x
    let others ← copyAll copyOne rest
    return first + others

/-- Stages what is below a directory of a fixture.  Every entry is staged before the
directory that it may be is opened, and one that stays behind is not opened at all.  Every
name makes the paths longer, so none that can be opened is below `FileTree.pathLimit`
others. -/
def copyBelow (source target : Path) : Nat → Place → Operation Nat
  | 0, relative => throw (.walkFixture source (sourcePath source relative) .nameTooLong)
  | depth + 1, relative => do
    let entries ← openDirectory source relative
    copyAll (fun (name, isDirectory) => do
      let copied ← copyEntry source target (relative ++ [name]) isDirectory
      if isDirectory then
        return copied + (← copyBelow source target depth (relative ++ [name]))
      else return copied) entries

/-- Copies what is to be staged of a fixture into a directory, which is made if it is
absent; the result is the number of files copied.  A fixture that is a file has nothing
below it. -/
def stage (source target : Path) : Operation Nat := do
  ensureDirectory target
  let m ← getThe Machine
  let count ← match m.files.entryAt m.directory source with
    | .error e => throw (.walkFixture source source e)
    | .ok .directory => copyBelow source target FileTree.pathLimit []
    | .ok _ => pure 0
  log (.staged count source target)
  return count

/-! ## 3. Moves -/

/-- Moves an entry, making the directories above its new place. -/
def relocate (source target : Path) : Operation Unit := do
  target.parent?.toList.forM fun parent => ensureDirectory parent
  changeFiles (.moveEntry source target) fun t directory => t.rename directory source target

end CrossBuild.Staging
