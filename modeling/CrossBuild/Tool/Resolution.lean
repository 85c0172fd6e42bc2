import CrossBuild.Path

/-!
# How a build tool was found
-/
namespace CrossBuild

/-- How the program that drives builds was found. -/
inductive ToolResolution where
  /-- It belongs to the release that was asked for. -/
  | pinned (path : Path) (version : String)
  /-- It was given by an absolute path, or is on the search path. -/
  | found (path : Path)
  /-- It was found at a well-known place. -/
  | probed (path : Path) (version : String)
  /-- It was not found; its name is kept, so that failures name a tool. -/
  | fallback (name : Path)
  /-- There is no tool. -/
  | notFound
  deriving DecidableEq, Repr

namespace ToolResolution

/-- The program to run, if there is one. -/
def path? : ToolResolution → Option Path
  | pinned path _ | found path | probed path _ | fallback path => some path
  | notFound => none

/-- Whether the tool is known to be there. -/
def isLocated : ToolResolution → Bool
  | pinned _ _ | found _ | probed _ _ => true
  | fallback _ | notFound => false

/-- One word for listings. -/
def label : ToolResolution → String
  | pinned _ _ => "pinned"
  | found _ => "found"
  | probed _ _ => "probed"
  | fallback _ => "fallback"
  | notFound => "not found"

/-- The name of the case, for records. -/
def kind : ToolResolution → String
  | pinned _ _ => "pinned"
  | found _ => "found"
  | probed _ _ => "probed"
  | fallback _ => "fallback"
  | notFound => "not_found"

end ToolResolution

end CrossBuild
