import CrossBuild.Build.Request
import CrossBuild.Text.DecimalDigit

/-!
# Builds with Visual Studio

The arguments of a build, the summary line that tells how many projects were
up to date, and the layout of what is built.
-/
namespace CrossBuild.Msvs

/-- The solution of a project. -/
def solution (project : Path) : Path :=
  project.withExtension "sln"

/-- The arguments that name a target.  The tool has no word for every target,
since the build of a solution covers every project. -/
def targetArguments : Target → List String
  | .default | .all => []
  | .named name => ["/Project", name]

/-- The arguments of a build. -/
def arguments (configuration : Configuration) (request : BuildRequest) : List String :=
  request.options.arguments ++
    [(solution request.project).text,
      if request.options.rebuild then "/Rebuild" else "/Build",
      configuration.buildName] ++
    targetArguments request.target ++
    (match configuration.name? with
      | some name => ["/ProjectConfig", name]
      | none => [])

/-! ## The summary line -/

/-- The summary line before the count. -/
def summaryStart : List Char := "=== Build: 0 succeeded, 0 failed, ".toList

/-- The summary line after the count. -/
def summaryEnd : List Char := " up-to-date, 0 skipped ===".toList

/-- The digits of the count, if a summary starts here. -/
def summaryDigits? (cs : List Char) : Option (List Char) :=
  match Text.after? summaryStart cs with
  | none => none
  | some rest =>
    let digits := rest.takeWhile Text.isDecimalDigit
    if digits.isEmpty || (Text.after? summaryEnd (rest.dropWhile Text.isDecimalDigit)).isNone then
      none
    else some digits

/-- The digits of the first summary in a text. -/
def firstSummary? : List Char → Option (List Char)
  | [] => none
  | c :: cs =>
    match summaryDigits? (c :: cs) with
    | some digits => some digits
    | none => firstSummary? cs

/-- The numbers that a count can be. -/
def countLimit : Nat := 4294967296

/-- How many projects the first summary counts as up to date, where the count
is written in ASCII digits and is in range. -/
def upToDateCount? (stdout : String) : Option Nat :=
  (firstSummary? stdout.toList).bind fun digits =>
    (Text.asciiNumber? digits).filter (· < countLimit)

/-- The count of a build that had nothing to do. -/
def expectedCount : Nat := 1

/-! ## Layout -/

/-- The directories above an artifact. -/
def layout (configuration : Configuration) (artifact : Artifact) : List String :=
  match artifact.kind with
  | .staticLibrary => [configuration.directory, "lib"]
  | .sharedLibrary | .executable | .unspecified => [configuration.directory]

end CrossBuild.Msvs
