import CrossBuild.Machine
import CrossBuild.Tool.Resolution

/-!
# Finding programs

A locator looks programs up on a search path, which is a list of directories
between colons.  A tool is given as a list of candidates: the first one that
is an absolute path, or that is found, wins.
-/
namespace CrossBuild

/-- Where programs are looked up. -/
structure Locator where
  /-- The directories to search, between colons; none if there is no search. -/
  searchPath : Option String
  /-- The directory that relative paths start from. -/
  base : Path
  deriving DecidableEq, Repr, Inhabited

namespace Locator

/-- The locator for a search path, as seen from the machine's current directory. -/
def ofSearchPath (m : Machine) (searchPath : Option String) : Locator :=
  { searchPath
    base := match m.currentDirectory with
      | .ok directory => directory
      | .error _ => ⟨""⟩ }

/-- The locator for the search path of the environment. -/
def ofEnvironment (m : Machine) : Locator :=
  ofSearchPath m (m.environment.get? "PATH")

/-- The directory that is looked in for one of the search path. -/
def directory (l : Locator) (m : Machine) (listed : String) : Path :=
  m.reading m.home? l.base ⟨listed⟩

/-- Where a program of a name may be, in the order of the search.  A name of
one part is looked up in each directory; any other one is a path. -/
def places (l : Locator) (m : Machine) (searchPath name : String) : List Path :=
  let path : Path := ⟨name⟩
  if path.components.length > 1 then [path.absoluteFrom l.base]
  else (Text.splitOn ':' searchPath).map fun listed => (l.directory m listed).join path

/-- The first program of a name. -/
def find? (l : Locator) (m : Machine) (name : String) : Option Path :=
  if name = "" then none
  else l.searchPath.bind fun searchPath => (l.places m searchPath name).find? m.isProgram

/-- The path that one candidate leads to: itself if it is absolute, and
otherwise the program found.  The empty candidate leads nowhere. -/
def candidatePath? (find : String → Option Path) (candidate : String) : Option Path :=
  if candidate = "" then none
  else if (Path.mk candidate).isAbsolute then some ⟨candidate⟩
  else find candidate

/-- How a list of candidates resolves.  When none leads to a path, the first
is kept as a fallback. -/
def resolve (find : String → Option Path) (candidates : List String) : ToolResolution :=
  match candidates.findSome? (candidatePath? find) with
  | some path => .found path
  | none =>
    match candidates with
    | [] => .notFound
    | first :: _ => .fallback ⟨first⟩

/-- Resolves a list of candidates, with a warning when it falls back. -/
def locate (l : Locator) (candidates : List String) : MachineM ToolResolution := do
  let m ← get
  let resolution := resolve (l.find? m) candidates
  match resolution with
  | .fallback name => log (.noCandidate candidates name)
  | _ => pure ()
  return resolution

end Locator

end CrossBuild
