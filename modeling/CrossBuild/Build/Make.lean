import CrossBuild.Build.Request

/-!
# Builds with make

The arguments of a build, the output of one that had nothing to do, and the
layout of what it makes.
-/
namespace CrossBuild.Make

/-- The names of the tool, the preferred one first. -/
def candidates : List String := ["make"]

/-- The tool's word for every target. -/
def allName : String := "all"

/-- The makefile of a whole tree. -/
def topMakefile : Path := ⟨"Makefile"⟩

/-- The makefile of one project, for directories without a top-level one. -/
def projectMakefile (project : Path) : Path :=
  project.withExtension "Makefile"

/-- The target that the tool names when it has nothing to do. -/
def targetWord : Target → String
  | .default | .all => allName
  | .named name => name

/-- What the tool prints when a target has nothing to do. -/
def noOpOutput (target : Target) : String :=
  "make: Nothing to be done for `" ++ targetWord target ++ "'.\n"

/-- The arguments that name a target. -/
def targetArguments : Target → List String
  | .default => []
  | .all => [allName]
  | .named name => [name]

/-- The arguments of a build where a top-level makefile exists. -/
def plainArguments (configuration : Configuration) (request : BuildRequest) : List String :=
  request.options.arguments ++
    (configuration.name?.toList.map fun name => "BUILDTYPE=" ++ name) ++
    targetArguments request.target

/-- The arguments of a build, given whether a top-level makefile exists. -/
def arguments (configuration : Configuration) (request : BuildRequest) (hasMakefile : Bool) :
    List String :=
  (if hasMakefile then [] else ["-f", (projectMakefile request.project).text]) ++
    plainArguments configuration request

/-- The directory of a kind of library, unless the artifact names another. -/
def libraryFolder (artifact : Artifact) : List String :=
  match artifact.kind with
  | .staticLibrary => [artifact.libdir.getD "obj.target"]
  | .sharedLibrary => [artifact.libdir.getD "lib.target"]
  | .executable | .unspecified => []

/-- The directories above an artifact. -/
def layout (configuration : Configuration) (artifact : Artifact) : List String :=
  ["out", configuration.directory] ++ libraryFolder artifact

/-- Where built programs find libraries: those of the host tools and those of
the targets may stand side by side, so both are searched. -/
def librarySearch (configuration : Configuration) : LibrarySearch :=
  let folder := ((Path.mk "out").join ⟨configuration.directory⟩).join ⟨"lib"⟩
  ⟨"LD_LIBRARY_PATH", folder.text ++ ".host:" ++ folder.text ++ ".target"⟩

end CrossBuild.Make
