import CrossBuild.Text.Search

/-!
# Build configurations

The variant that a build makes, such as `Release`.  A name may be compound,
`Release|x64`: the whole of it is passed to build tools, and the part before
the first bar names the directory of the output.
-/
namespace CrossBuild

/-- A build variant: a name that is not empty, or none. -/
structure Configuration where
  /-- The name, when one is set. -/
  name? : Option String
  /-- A set name is not empty. -/
  name_ne_empty : name? ≠ some "" := by decide

namespace Configuration

/-- The configuration in which no name is set. -/
def unset : Configuration := ⟨none, by decide⟩

instance : Inhabited Configuration := ⟨unset⟩

/-- The configuration of a name; an empty one counts as none. -/
def ofName? (name : Option String) : Configuration :=
  if h : name = some "" then unset else ⟨name, h⟩

/-- Two configurations are equal when their names are. -/
@[ext]
theorem ext {c d : Configuration} (h : c.name? = d.name?) : c = d := by
  cases c; cases d; cases h; rfl

instance : DecidableEq Configuration := fun c d =>
  decidable_of_iff (c.name? = d.name?) ⟨ext, fun h => h ▸ rfl⟩

/-- The name that stands for the configuration when none is set. -/
def defaultName : String := "Default"

/-- Whether a name is set. -/
def isSet (c : Configuration) : Bool :=
  c.name?.isSome

/-- The name passed to build tools. -/
def buildName (c : Configuration) : String :=
  c.name?.getD defaultName

/-- The name of the output directory: the part before the first bar. -/
def directory (c : Configuration) : String :=
  String.ofList (c.buildName.toList.takeWhile (· != '|'))

end Configuration

end CrossBuild
