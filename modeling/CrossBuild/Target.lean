import CrossBuild.Path

/-!
# Targets and the options of a build

What one call of a build tool should build, and what its caller may ask for
besides.
-/
namespace CrossBuild

/-- What to build. -/
inductive Target where
  /-- Whatever the build tool builds when nothing is named. -/
  | default
  /-- Everything, in the tool's own spelling. -/
  | all
  /-- One named target. -/
  | named (name : String)
  deriving DecidableEq, Repr, Inhabited

namespace Target

/-- The form in which messages show a target. -/
def display : Target → String
  | default => "(default)"
  | all => "(all)"
  | named name => name

/-- Whether the choice is left to the build tool. -/
def isDefault : Target → Bool
  | default => true
  | _ => false

end Target

/-- The `SYMROOT` setting of an Xcode build. -/
inductive SymRoot where
  /-- The directory `build` below the source root. -/
  | default
  /-- A value given by the caller. -/
  | path (value : String)
  /-- No setting at all. -/
  | disabled
  deriving DecidableEq, Repr, Inhabited

namespace SymRoot

/-- The setting of a given value; the empty one disables it. -/
def ofValue (value : String) : SymRoot :=
  if value = "" then disabled else path value

/-- The value to pass, if any. -/
def value? : SymRoot → Option String
  | default => some "$SRCROOT/build"
  | path value => some value
  | disabled => none

end SymRoot

/-- What the caller of a build may ask for. -/
structure BuildOptions where
  /-- The subdirectory of the workdir to build in. -/
  chdir : Option Path := none
  /-- Further arguments, placed before those of the backend. -/
  arguments : List String := []
  /-- Whether to build everything anew, where the tool has a word for it. -/
  rebuild : Bool := false
  /-- The `SYMROOT` setting. -/
  symroot : SymRoot := .default
  deriving DecidableEq, Repr, Inhabited

/-- What the caller of a built program may ask for. -/
structure RunOptions where
  /-- The subdirectory of the workdir in which the program was built, and runs. -/
  chdir : Option Path := none
  /-- The program's arguments. -/
  arguments : List String := []
  deriving DecidableEq, Repr, Inhabited

end CrossBuild
