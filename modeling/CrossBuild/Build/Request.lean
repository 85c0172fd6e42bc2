import CrossBuild.Artifact
import CrossBuild.Configuration
import CrossBuild.Target

/-!
# What every backend is asked for

The request of a build, the variable with which a built program finds its
libraries, and the workspace in which both are meant.
-/
namespace CrossBuild

/-- A build that a caller asks for. -/
structure BuildRequest where
  /-- The project file that the build files were generated from. -/
  project : Path
  /-- What to build. -/
  target : Target := .default
  /-- What else the caller asks for. -/
  options : BuildOptions := {}
  deriving DecidableEq, Repr, Inhabited

/-- The variable in which a built program is told where its libraries are. -/
structure LibrarySearch where
  /-- The name of the variable. -/
  name : String
  /-- Its value, relative to the directory that the program runs in. -/
  value : String
  deriving DecidableEq, Repr

/-- Where builds happen: the directory, the variant and the platform's names. -/
structure Workspace where
  /-- The working directory; every path resolves below it. -/
  workdir : Path
  /-- The variant to build. -/
  configuration : Configuration := .unset
  /-- The names of artifacts. -/
  affixes : Affixes := .host

namespace Workspace

/-- The directory that a command runs in. -/
def runDirectory (w : Workspace) (chdir : Option Path) : Path :=
  match chdir with
  | some directory => w.workdir.join directory
  | none => w.workdir

/-- The path of an artifact: below the working directory, its subdirectory if it has one, the
directories of a layout and its file name are joined on, one after the other. -/
def artifactPath (w : Workspace) (artifact : Artifact) (layout : List String) : Path :=
  let fileName := w.affixes.fileName artifact.name artifact.kind artifact.bare
  w.workdir.joinAll (artifact.chdir.toList ++ layout.map Path.mk ++ [⟨fileName⟩])

end Workspace

end CrossBuild
