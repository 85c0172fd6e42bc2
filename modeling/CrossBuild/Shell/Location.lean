import CrossBuild.Shell.Session

/-!
# What names of files lead to

A name of a file is looked up from the directory of the process that runs.
A path of directories, with colons between them, gives a name several
meanings, which are tried in order.
-/
namespace CrossBuild.Shell

/-- The place of the device that holds nothing and takes everything. -/
def nullPlace : Place := ["dev", "null"]

/-- The path that a text of octets names. -/
def pathOf (name : String) : Path :=
  ⟨Octets.toText name⟩

/-- The place that a name leads to, where there may be nothing. -/
def locate (name : String) : ShellM (Except FileError Place) := do
  return (← files).resolve (← process).directory (pathOf name)

/-- The entry that a name leads to. -/
def entryAt (name : String) : ShellM (Except FileError Entry) := do
  return (← files).entryAt (← process).directory (pathOf name)

/-- The entry that a name leads to, where a link in last position counts as itself. -/
def unfollowed? (name : String) : ShellM (Option Entry) := do
  return (← files).unfollowed? (← process).directory (pathOf name)

/-- Whether a name leads to a directory. -/
def isDirectoryAt (name : String) : ShellM Bool := do
  return (← files).isDirectory (← process).directory (pathOf name)

/-- Whether a name leads to a file, of whatever bytes. -/
def isFileAt (name : String) : ShellM Bool := do
  match ← locate name with
  | .error _ => return false
  | .ok place =>
    if place = nullPlace then return false
    else
      match (← files).lookup? place with
      | some (.file _ _) => return true
      | _ => return false

/-- The names that a path of directories gives for a name, each with whether a directory
stands before it. -/
def namesOn (path name : String) : List (String × Bool) :=
  (Text.splitOn ':' path).map fun entry =>
    if entry = "" then (name, false) else (entry ++ "/" ++ name, true)

end CrossBuild.Shell
