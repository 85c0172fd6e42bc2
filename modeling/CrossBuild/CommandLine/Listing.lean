import CrossBuild.CommandLine.JsonValue
import CrossBuild.Summary

/-!
# The listing of formats

The summaries of all formats, as a table for readers or as JSON for
programs.
-/
namespace CrossBuild

namespace Summary

/-- The word for whether builds of a format can run. -/
def statusWord (s : Summary) : String :=
  if s.isAvailable then "available" else "unavailable"

/-- How the driver of a format was found, and where. -/
def resolved (s : Summary) : String :=
  match s.resolution.path? with
  | some path => path.text ++ " (" ++ s.resolution.label ++ ")"
  | none => s.resolution.label

/-- The lines of a format in the table, a blank one after them. -/
def lines (s : Summary) : List String :=
  ["  " ++ s.format.name ++ " - " ++ s.format.description,
   "    Status:     " ++ s.statusWord,
   "    Tool:       " ++ s.tool,
   "    Resolved:   " ++ s.resolved] ++
  s.generation.toList.map (fun g => "    Generation: " ++ g.display) ++
  [""]

/-- How the driver was found, as JSON. -/
def resolutionJson (r : ToolResolution) : JsonValue :=
  .object (("kind", .string r.kind) ::
    match r with
    | .pinned path version | .probed path version =>
      [("path", .string path.text), ("version", .string version)]
    | .found path => [("path", .string path.text)]
    | .fallback name => [("name", .string name.text)]
    | .notFound => [])

/-- A format, as JSON. -/
def json (s : Summary) : JsonValue :=
  .object
    ([("format", .string s.format.name),
      ("description", .string s.format.description),
      ("tool", .string s.tool),
      ("resolution", resolutionJson s.resolution)] ++
    s.generation.toList.map fun g => ("generation", .string g.name))

/-- The line that reports a format whose build tool is there. -/
def confirmation (s : Summary) : String :=
  match s.resolution.path? with
  | some path =>
    s.format.name ++ ": " ++ path.text ++ " (" ++ s.tool ++ ", " ++ s.resolution.label ++ ")"
  | none => s.format.name ++ ": no build tool needed"

/-- The error that a format without a build tool is. -/
def missingTool (s : Summary) : VerifyError :=
  .toolNotFound s.format s.tool s.resolution.path?.toList

end Summary

namespace Listing

/-- The table of formats. -/
def table (summaries : List Summary) : String :=
  Diagnostic.lines "" (["Formats:", ""] ++ summaries.flatMap Summary.lines)

/-- The formats as JSON. -/
def json (summaries : List Summary) : String :=
  (JsonValue.array (summaries.map Summary.json)).pretty 0 ++ "\n"

end Listing

end CrossBuild
