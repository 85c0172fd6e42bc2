import CrossBuild.Build.Make
import CrossBuild.Build.Msvs
import CrossBuild.Build.Scons
import CrossBuild.Build.Xcode
import CrossBuild.Invocation
import CrossBuild.Settings.Basic
import CrossBuild.VisualStudio.Discovery

/-!
# Backends

A backend is a format together with the driver of its builds.  Each one
turns a request into the arguments of its tool, recognises the output
of a build that had nothing to do, and knows where the artifacts are.

Building again and requiring that nothing was done (`Backend.upToDate`) is
the same for all of them.
-/
namespace CrossBuild

/-- A format with the driver of its builds. -/
inductive Backend where
  /-- Nothing is built. -/
  | gypd
  /-- Builds with make. -/
  | make (tool : ToolResolution)
  /-- Builds with Visual Studio, through one of its engines. -/
  | msvs (tool : ToolResolution) (generation : VisualStudio.Generation)
  /-- Builds with SCons. -/
  | scons (tool : ToolResolution)
  /-- Builds with Xcode. -/
  | xcode (tool : ToolResolution)
  deriving DecidableEq, Repr

namespace Backend

/-! ## 1. What a backend is -/

/-- The format that a backend builds. -/
def format : Backend → Format
  | gypd => .gypd
  | make _ => .make
  | msvs _ _ => .msvs
  | scons _ => .scons
  | xcode _ => .xcode

/-- How the driver was found. -/
def tool : Backend → ToolResolution
  | gypd => .notFound
  | make tool | msvs tool _ | scons tool | xcode tool => tool

/-- The name of the driver, for the user. -/
def toolName : Backend → String
  | gypd => "(none)"
  | make _ => "make"
  | msvs _ _ => "devenv"
  | scons _ => "scons"
  | xcode _ => "xcodebuild"

/-- The engine of Visual Studio builds. -/
def generation? : Backend → Option VisualStudio.Generation
  | msvs _ generation => some generation
  | _ => none

/-- The driver to run, or the error that there is none. -/
def requireTool (b : Backend) : Except VerifyError Path :=
  match b.tool.path? with
  | some path => .ok path
  | none => .error (.toolNotFound b.format b.toolName [])

/-! ## 2. Selection -/

/-- The candidates for a tool: the configured path, then the built-in names. -/
def candidates (configured : Option Path) (names : List String) : List String :=
  configured.toList.map Path.text ++ names

/-- The search for Visual Studio that settings ask for. -/
def discovery (locator : Locator) (settings : Settings) : VisualStudio.Discovery :=
  .new locator settings.msvs.roots settings.msvs.version (settings.toolFor .msvs)

/-- The Visual Studio backend that a search leads to. -/
def ofDiscovery (d : VisualStudio.Discovery) : Verify Backend := do
  let selection ← d.run
  if selection.resolution.isLocated then return msvs selection.resolution selection.generation
  else throw (.toolNotFound .msvs VisualStudio.driverName d.searched)

/-- The backend of a format, without a word in the log. -/
def find (format : Format) (locator : Locator) (settings : Settings) : Verify Backend := do
  let configured := settings.toolFor format
  match format with
  | .gypd => return gypd
  | .make => return make (← locator.locate (candidates configured Make.candidates))
  | .msvs => ofDiscovery (discovery locator settings)
  | .scons => return scons (← locator.locate (candidates configured Scons.candidates))
  | .xcode => return xcode (← locator.locate (candidates configured Xcode.candidates))

/-- The backend of a format.  Only Visual Studio has to be found; every other
tool falls back to its name and fails when it is run. -/
def select (format : Format) (locator : Locator) (settings : Settings) : Verify Backend := do
  let b ← find format locator settings
  log (.selected format b.toolName b.tool)
  return b

/-! ## 3. Builds -/

/-- Runs a command in the workspace, or in a directory below it. -/
def runIn (w : Workspace) (executor : Executor) (c : Command) (chdir : Option Path) :
    Verify Invocation := do
  let c := { c with directory := some (w.runDirectory chdir) }
  log (.runningIn (w.runDirectory chdir) c.display)
  let output ← (execute executor c).verify
  return .ofOutput c output

/-- The top-level makefile of the directory that a build runs in. -/
def topMakefile (w : Workspace) (options : BuildOptions) : Path :=
  (w.runDirectory options.chdir).join Make.topMakefile

/-- The arguments of a build; none where nothing is built. -/
def arguments (b : Backend) (configuration : Configuration) (request : BuildRequest)
    (hasMakefile : Bool) : List String :=
  match b with
  | gypd => []
  | make _ => Make.arguments configuration request hasMakefile
  | msvs _ _ => Msvs.arguments configuration request
  | scons _ => Scons.arguments configuration request
  | xcode _ => Xcode.arguments configuration request

/-- Runs a build with the given arguments. -/
def drive (b : Backend) (w : Workspace) (executor : Executor) (options : BuildOptions)
    (arguments : List String) : Verify Invocation := do
  let program ← b.requireTool
  runIn w executor { program, arguments } options.chdir

/-- Runs a build. -/
def build (b : Backend) (w : Workspace) (executor : Executor) (request : BuildRequest) :
    Verify Invocation := do
  match b with
  | gypd => throw (.unsupported .gypd "build")
  | make _ =>
    let makefile := topMakefile w request.options
    let hasMakefile := (← getThe Machine).pathExists makefile
    if !hasMakefile then log (.noMakefile makefile)
    b.drive w executor request.options (b.arguments w.configuration request hasMakefile)
  | _ => b.drive w executor request.options (b.arguments w.configuration request true)

/-! ## 4. Builds that should have nothing to do -/

/-- The options of a build that should have nothing to do. -/
def verificationOptions (b : Backend) (options : BuildOptions) : BuildOptions :=
  match b with
  | scons _ => Scons.verificationOptions options
  | _ => options

/-- Whether a successful build of a target printed what one prints that has
nothing to do. -/
def isNoOp (b : Backend) (target : Target) (stdout : String) : Bool :=
  match b with
  | gypd => false
  | make _ => stdout == Make.noOpOutput target
  | msvs _ _ => Msvs.upToDateCount? stdout == some Msvs.expectedCount
  | scons _ => stdout == Scons.noOpOutput target
  | xcode _ => Xcode.isNoOpOutput stdout

/-- What is logged, for whoever looks for a fault, on a build that did work. -/
def mismatch (b : Backend) (target : Target) (stdout : String) : List Event :=
  match b with
  | gypd | xcode _ => []
  | make _ => [.unexpectedOutput (Make.noOpOutput target) stdout]
  | msvs _ _ => [.projectCount (Msvs.upToDateCount? stdout) Msvs.expectedCount]
  | scons _ => [.unexpectedOutput (Scons.noOpOutput target) stdout]

/-- The invocation of a successful build, if it had nothing to do. -/
def checkUpToDate (b : Backend) (target : Target) (i : Invocation) : Verify Invocation := do
  if b = gypd then throw (.unsupported .gypd "up_to_date")
  else if b.isNoOp target i.output.stdout then return i
  else
    (b.mismatch target i.output.stdout).forM fun e => log e
    i.rejectAsWork b.format

/-- The request of a build that should have nothing to do. -/
def verificationRequest (b : Backend) (request : BuildRequest) : BuildRequest :=
  { request with options := b.verificationOptions request.options }

/-- Builds again and requires that nothing was done. -/
def upToDate (b : Backend) (w : Workspace) (executor : Executor) (request : BuildRequest) :
    Verify Invocation := do
  let i ← b.build w executor (b.verificationRequest request)
  let i ← i.ensureSuccess
  b.checkUpToDate request.target i

/-! ## 5. Artifacts -/

/-- The directories above an artifact, below the directory that it is built in. -/
def layout (b : Backend) (configuration : Configuration) (artifact : Artifact) : List String :=
  match b with
  | gypd => []
  | make _ => Make.layout configuration artifact
  | msvs _ _ => Msvs.layout configuration artifact
  | scons _ => Scons.layout configuration artifact
  | xcode _ => Xcode.layout configuration

/-- Where an artifact is. -/
def artifactPath (b : Backend) (w : Workspace) (artifact : Artifact) : Path :=
  w.artifactPath artifact (b.layout w.configuration artifact)

/-- Where built programs find their libraries. -/
def librarySearch? (b : Backend) (configuration : Configuration) : Option LibrarySearch :=
  match b with
  | gypd | msvs _ _ => none
  | make _ => some (Make.librarySearch configuration)
  | scons _ => some (Scons.librarySearch configuration)
  | xcode _ => some (Xcode.librarySearch configuration)

/-- The command that runs a built program. -/
def runCommand (b : Backend) (w : Workspace) (name : String) (options : RunOptions) : Command :=
  { program := b.artifactPath w { name, kind := .executable, chdir := options.chdir }
    arguments := options.arguments
    environment :=
      (b.librarySearch? w.configuration).toList.map fun search => (search.name, search.value) }

/-- Runs a built program, with its library search set for it alone. -/
def run (b : Backend) (w : Workspace) (executor : Executor) (name : String)
    (options : RunOptions) : Verify Invocation := do
  if b = gypd then throw (.unsupported .gypd "run_built_executable")
  else
    (b.librarySearch? w.configuration).toList.forM fun search =>
      log (.librarySearch search.name search.value)
    runIn w executor (b.runCommand w name options) options.chdir

end Backend

end CrossBuild
