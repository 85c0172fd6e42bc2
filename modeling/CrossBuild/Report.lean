/-!
# The dump of a build

What a tool printed, under banners, for a build that should have had nothing
to do.
-/
namespace CrossBuild.Report

/-- The width of a banner. -/
def bannerWidth : Nat := 80

/-- A label, filled up with `=` to the width of a banner. -/
def banner (label : String) : String :=
  label ++ String.ofList (List.replicate (bannerWidth - label.length) '=')

/-- One stream of output below its banner. -/
def streamSection (label output : String) : String :=
  banner label ++ "\n" ++ output ++ "\n"

/-- The dump of a build from its two streams; an empty error stream is left out. -/
def notUpToDate (stdout stderr : String) : String :=
  "Build is not up-to-date:\n" ++ streamSection "STDOUT " stdout ++
    (if stderr = "" then "" else streamSection "STDERR " stderr)

end CrossBuild.Report
