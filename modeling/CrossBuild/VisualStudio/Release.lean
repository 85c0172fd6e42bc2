import CrossBuild.Path
import CrossBuild.Text.Search

/-!
# Releases of Visual Studio

The known releases, where each installs its console driver below an install
root, and which engine its builds go through.
-/
namespace CrossBuild.VisualStudio

/-- The engine that builds a solution. -/
inductive Generation where
  /-- Releases before 2010: the driver builds by itself. -/
  | legacy
  /-- Releases from 2010 on: builds go through MSBuild. -/
  | msbuild
  deriving DecidableEq, Repr

namespace Generation

/-- The generation of a release year. -/
def ofYear (year : Nat) : Generation :=
  if 2010 ≤ year then msbuild else legacy

/-- The name of a generation. -/
def name : Generation → String
  | legacy => "legacy"
  | msbuild => "msbuild"

/-- The form in which listings show a generation. -/
def display : Generation → String
  | legacy => "legacy (devenv)"
  | msbuild => "msbuild"

/-- The form in which debugging messages show a generation. -/
def label : Generation → String
  | legacy => "Legacy"
  | msbuild => "MsBuild"

/-- Whether builds go through MSBuild. -/
def usesMsbuild : Generation → Bool
  | legacy => false
  | msbuild => true

end Generation

/-- The file name of the console driver.  It is the one that writes the output
of a build to the standard output. -/
def driverName : String := "devenv.com"

/-- A release. -/
structure Release where
  /-- The name by which a release is requested. -/
  version : String
  /-- The year of the release. -/
  year : Nat
  /-- The directory of the release below an install root. -/
  folder : String
  deriving DecidableEq, Repr

namespace Release

/-- The known releases, newest first. -/
def known : List Release :=
  [⟨"2013", 2013, "Microsoft Visual Studio 12.0"⟩,
   ⟨"2012", 2012, "Microsoft Visual Studio 11.0"⟩,
   ⟨"2010", 2010, "Microsoft Visual Studio 10.0"⟩,
   ⟨"2008", 2008, "Microsoft Visual Studio 9.0"⟩,
   ⟨"2005", 2005, "Microsoft Visual Studio 8"⟩]

/-- The known release of a name. -/
def find? (version : String) : Option Release :=
  known.find? (·.version == version)

/-- The parts of the driver's path below an install root. -/
def relativeParts (r : Release) : List Path :=
  [⟨r.folder⟩, ⟨"Common7"⟩, ⟨"IDE"⟩, ⟨driverName⟩]

/-- The driver's path below an install root, on its own. -/
def relativePath (r : Release) : Path :=
  (Path.mk "").joinAll r.relativeParts

/-- The driver's path below the given root. -/
def pathUnder (r : Release) (root : Path) : Path :=
  root.joinAll r.relativeParts

/-- The generation of the release. -/
def generation (r : Release) : Generation :=
  .ofYear r.year

end Release

/-- The generation of a driver, by where it is installed.  A driver at no known
place is taken for one of the legacy generation. -/
def inferGeneration (driver : Path) : Generation :=
  match Release.known.find? fun r => Text.contains driver.text r.relativePath.text with
  | some r => r.generation
  | none => .legacy

/-- The install roots that are searched when none are configured. -/
def defaultRoots : List Path :=
  [⟨"C:\\Program Files (x86)"⟩, ⟨"C:\\Program Files"⟩]

end CrossBuild.VisualStudio
