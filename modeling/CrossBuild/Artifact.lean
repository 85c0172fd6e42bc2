import CrossBuild.Path
import CrossBuild.Text.Letters

/-!
# Artifacts

The files that builds make.  An artifact is described by its bare name and
its kind; the platform's affixes turn these into a file name.
-/
namespace CrossBuild

/-- The kinds of built files. -/
inductive ArtifactKind where
  /-- A program. -/
  | executable
  /-- A static library. -/
  | staticLibrary
  /-- A shared library. -/
  | sharedLibrary
  /-- Any other file, whose name gets no affixes. -/
  | unspecified
  deriving DecidableEq, Repr, Inhabited

namespace ArtifactKind

/-- The kind that a text names, without regard to case. -/
def parse? (text : String) : Option ArtifactKind :=
  match Text.lowerName text with
  | "exe" | "executable" => some executable
  | "static" | "staticlib" | "static_library" => some staticLibrary
  | "shared" | "sharedlib" | "shared_library" | "dylib" => some sharedLibrary
  | "file" | "none" => some unspecified
  | _ => none

/-- What is said of a text that names no kind. -/
def invalidMessage (text : String) : String :=
  "invalid artifact kind '" ++ text ++ "'; expected 'exe', 'static', 'shared', or 'file'"

end ArtifactKind

/-- A built file to locate. -/
structure Artifact where
  /-- The name without affixes. -/
  name : String
  /-- The kind, which selects affixes and library directories. -/
  kind : ArtifactKind := .unspecified
  /-- The subdirectory of the workdir in which it was built. -/
  chdir : Option Path := none
  /-- Another library directory, for the one backend that allows it. -/
  libdir : Option String := none
  /-- Whether the name is the file name, without affixes. -/
  bare : Bool := false
  deriving DecidableEq, Repr, Inhabited

/-- What a platform puts around the names of artifacts. -/
structure Affixes where
  /-- The end of a program's name. -/
  executableEnd : String
  /-- The start of a static library's name. -/
  staticStart : String
  /-- The end of a static library's name. -/
  staticEnd : String
  /-- The start of a shared library's name. -/
  sharedStart : String
  /-- The end of a shared library's name. -/
  sharedEnd : String
  deriving DecidableEq, Repr

namespace Affixes

/-- The names `foo.exe`, `foo.lib` and `foo.dll`. -/
def windows : Affixes := ⟨".exe", "", ".lib", "", ".dll"⟩

/-- The names `foo`, `libfoo.a` and `libfoo.dylib`. -/
def macos : Affixes := ⟨"", "lib", ".a", "lib", ".dylib"⟩

/-- The names `foo`, `libfoo.a` and `libfoo.so`. -/
def unix : Affixes := ⟨"", "lib", ".a", "lib", ".so"⟩

/-- The affixes of the platform that scenarios run on. -/
def host : Affixes := unix

/-- The file name of an artifact. -/
def fileName (a : Affixes) (name : String) (kind : ArtifactKind) (bare : Bool) : String :=
  if bare then name
  else
    match kind with
    | .executable => name ++ a.executableEnd
    | .staticLibrary => a.staticStart ++ name ++ a.staticEnd
    | .sharedLibrary => a.sharedStart ++ name ++ a.sharedEnd
    | .unspecified => name

end Affixes

end CrossBuild
