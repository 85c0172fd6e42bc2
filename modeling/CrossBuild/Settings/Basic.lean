import CrossBuild.Format
import CrossBuild.Path

/-!
# Settings

What a configuration file can set.  Settings come in layers, and `merge`
puts one layer over another: whatever the upper one sets, wins.
-/
namespace CrossBuild

/-- The configured paths of build tools. -/
structure ToolPaths where
  /-- The driver of make builds. -/
  make : Option Path := none
  /-- The driver of SCons builds. -/
  scons : Option Path := none
  /-- The driver of Xcode builds. -/
  xcodebuild : Option Path := none
  /-- The driver of Visual Studio builds. -/
  devenv : Option Path := none
  deriving DecidableEq, Repr, Inhabited

/-- How Visual Studio is looked for. -/
structure MsvsSettings where
  /-- The release that is asked for. -/
  version : Option String := none
  /-- The install roots; when there are none, the default ones. -/
  roots : List Path := []
  deriving DecidableEq, Repr, Inhabited

/-- The settings of a verification. -/
structure Settings where
  /-- The name of the format to verify. -/
  format : Option String := none
  /-- The generator to run. -/
  generator : Option Path := none
  /-- The variant to begin with. -/
  configuration : Option String := none
  /-- The paths of build tools. -/
  tools : ToolPaths := {}
  /-- How Visual Studio is looked for. -/
  msvs : MsvsSettings := {}
  deriving DecidableEq, Repr, Inhabited

/-- The tool paths of a lower layer under those of an upper one. -/
def ToolPaths.merge (lower upper : ToolPaths) : ToolPaths where
  make := upper.make <|> lower.make
  scons := upper.scons <|> lower.scons
  xcodebuild := upper.xcodebuild <|> lower.xcodebuild
  devenv := upper.devenv <|> lower.devenv

/-- The Visual Studio settings of a lower layer under those of an upper one.
Roots replace the lower ones and do not extend them. -/
def MsvsSettings.merge (lower upper : MsvsSettings) : MsvsSettings where
  version := upper.version <|> lower.version
  roots := if upper.roots.isEmpty then lower.roots else upper.roots

namespace Settings

/-- The settings of a lower layer under those of an upper one. -/
def merge (lower upper : Settings) : Settings where
  format := upper.format <|> lower.format
  generator := upper.generator <|> lower.generator
  configuration := upper.configuration <|> lower.configuration
  tools := lower.tools.merge upper.tools
  msvs := lower.msvs.merge upper.msvs

/-- The configured driver of a format's builds. -/
def toolFor (s : Settings) : Format → Option Path
  | .gypd => none
  | .make => s.tools.make
  | .msvs => s.tools.devenv
  | .scons => s.tools.scons
  | .xcode => s.tools.xcodebuild

end Settings

end CrossBuild
