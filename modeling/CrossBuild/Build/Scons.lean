import CrossBuild.Build.Request
import CrossBuild.Text.Blank

/-!
# Builds with SCons

The arguments of a build, the output of one that had nothing to do, and the
layout of what it makes.  A target's name may be several words; each is a
target of its own.
-/
namespace CrossBuild.Scons

/-- The names of the tool, the preferred one first. -/
def candidates : List String := ["scons", "scons.py"]

/-- The tool's word for every target. -/
def allName : String := "all"

/-- The flag that leaves only the lines on targets in the output. -/
def quietFlag : String := "-Q"

/-- The directory of libraries. -/
def libraryFolder : String := "lib"

/-- The words that a target stands for. -/
def targetWords : Target → List String
  | .default | .all => [allName]
  | .named name => Text.words name

/-- What the tool prints, under the quiet flag, when every word is up to date. -/
def noOpOutput (target : Target) : String :=
  String.join ((targetWords target).map fun word => "scons: `" ++ word ++ "' is up to date.\n")

/-- The arguments that name a target. -/
def targetArguments (target : Target) : List String :=
  if target.isDefault then [] else targetWords target

/-- The arguments that lead to the project's directory. -/
def directoryArguments (project : Path) : List String :=
  match project.parent? with
  | some directory => if directory.text = "" then [] else ["-C", directory.text]
  | none => []

/-- The arguments of a build. -/
def arguments (configuration : Configuration) (request : BuildRequest) : List String :=
  request.options.arguments ++ directoryArguments request.project ++
    (configuration.name?.toList.map fun name => "--mode=" ++ name) ++
    targetArguments request.target

/-- The options of a build that should have nothing to do. -/
def verificationOptions (options : BuildOptions) : BuildOptions :=
  { options with arguments := options.arguments ++ [quietFlag] }

/-- The directories above an artifact. -/
def layout (configuration : Configuration) (artifact : Artifact) : List String :=
  match artifact.kind with
  | .staticLibrary | .sharedLibrary => [configuration.directory, libraryFolder]
  | .executable | .unspecified => [configuration.directory]

/-- Where built programs find libraries. -/
def librarySearch (configuration : Configuration) : LibrarySearch :=
  ⟨"LD_LIBRARY_PATH", ((Path.mk configuration.directory).join ⟨libraryFolder⟩).text⟩

end CrossBuild.Scons
