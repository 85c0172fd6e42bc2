import CrossBuild.Tool.Locator
import CrossBuild.VisualStudio.Release

/-!
# Finding Visual Studio

The driver is looked for in three ways, in this order: the release that was
asked for, below the install roots; the configured driver, or else the one
on the search path; and the known releases below the roots, newest first.
-/
namespace CrossBuild.VisualStudio

/-- What to look for, and where. -/
structure Discovery where
  /-- The search path for the driver. -/
  locator : Locator
  /-- The install roots. -/
  roots : List Path
  /-- The release that was asked for.  One that is not known counts as none. -/
  version : Option String := none
  /-- The configured driver, which takes the place of the one on the search path. -/
  driver : Option Path := none

/-- What was found. -/
structure Selection where
  /-- How the driver was found. -/
  resolution : ToolResolution
  /-- The engine of its builds. -/
  generation : Generation
  deriving DecidableEq, Repr

namespace Discovery

/-- A discovery below the given roots; when there are none, below the default ones. -/
def new (locator : Locator) (roots : List Path) (version : Option String)
    (driver : Option Path) : Discovery :=
  { locator, version, driver
    roots := if roots.isEmpty then defaultRoots else roots }

/-- Every place that is looked at, for error messages. -/
def searched (d : Discovery) : List Path :=
  ⟨driverName⟩ :: Release.known.flatMap fun r => d.roots.map r.pathUnder

/-- The driver of a release below the first root that has it. -/
def underRoots? (d : Discovery) (m : Machine) (r : Release) : Option Path :=
  (d.roots.map r.pathUnder).find? m.pathExists

/-- The release that was asked for, if it is known. -/
def requested? (d : Discovery) : Option Release :=
  d.version.bind Release.find?

/-- The configured driver, or the one on the search path. -/
def generic? (d : Discovery) (m : Machine) : Option Path :=
  d.driver <|> d.locator.find? m driverName

/-- The newest known release below the roots, with its driver. -/
def probed? (d : Discovery) (m : Machine) : Option (Release × Path) :=
  Release.known.findSome? fun r => (d.underRoots? m r).map fun path => (r, path)

/-- The driver that is used when no requested release is installed. -/
def unpinned (d : Discovery) (m : Machine) : Selection × List Event :=
  match d.generic? m with
  | some path =>
    let generation := inferGeneration path
    (⟨.found path, generation⟩, [.usingSearched path generation])
  | none =>
    match d.probed? m with
    | some (r, path) => (⟨.probed path r.version, r.generation⟩, [.probedRelease r.version path])
    | none => (⟨.notFound, .legacy⟩, [])

/-- What is found, with the events to log. -/
def outcome (d : Discovery) (m : Machine) : Selection × List Event :=
  match d.requested? with
  | none => d.unpinned m
  | some r =>
    match d.underRoots? m r with
    | some path => (⟨.pinned path r.version, r.generation⟩, [.usingPinned r.version path])
    | none =>
      let (selection, events) := d.unpinned m
      (selection, .releaseMissing r.version r.relativePath :: events)

/-- Looks for the driver, and logs how it was found. -/
def run (d : Discovery) : MachineM Selection := do
  let (selection, events) := d.outcome (← get)
  events.forM log
  return selection

end Discovery

end CrossBuild.VisualStudio
