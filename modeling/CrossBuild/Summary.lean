import CrossBuild.Backend

/-!
# Summaries of backends

One entry per format, for listings: what builds it, and whether that is
there.
-/
namespace CrossBuild

/-- What a listing says of a format. -/
structure Summary where
  /-- The format. -/
  format : Format
  /-- The name of the driver. -/
  tool : String
  /-- How the driver was found. -/
  resolution : ToolResolution
  /-- The engine of Visual Studio builds, when a release was found. -/
  generation : Option VisualStudio.Generation := none
  deriving DecidableEq, Repr

namespace Summary

/-- The entry of a backend. -/
def ofBackend (b : Backend) : Summary :=
  { format := b.format
    tool := b.toolName
    resolution := b.tool
    generation := b.generation? }

/-- The entry of a format whose backend could not be set up. -/
def unavailable (format : Format) : Summary :=
  { format, tool := "devenv", resolution := .notFound }

/-- Whether builds of the format can run.  The data dump needs no driver. -/
def isAvailable (s : Summary) : Bool :=
  s.format = .gypd || s.resolution.isLocated

/-- The entry of one format. -/
def ofFormat (locator : Locator) (settings : Settings) (format : Format) : MachineM Summary := do
  match ← (Backend.select format locator settings).run with
  | .ok b => return ofBackend b
  | .error e =>
    log (.unavailable format e.message)
    return unavailable format

/-- The entries of all formats, in order. -/
def all (locator : Locator) (settings : Settings) : MachineM (List Summary) :=
  Format.all.mapM (ofFormat locator settings)

end Summary

end CrossBuild
