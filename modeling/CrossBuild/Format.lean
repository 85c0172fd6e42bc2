import CrossBuild.Text.Blank
import CrossBuild.Text.Letters

/-!
# Formats

A format is the kind of build files that a generator writes, one per build
tool.  `Format.parse?` reads a name without regard to case and to blanks
around it; `Format.parse?_name` says that it reads back every name, and
`Format.parse?_eq_some_iff` that it reads nothing else.
-/
namespace CrossBuild

/-- The kinds of build files. -/
inductive Format where
  /-- A dump of the generator's input data, which nothing builds. -/
  | gypd
  /-- Makefiles, built by `make`. -/
  | make
  /-- Visual Studio solutions, built by `devenv`. -/
  | msvs
  /-- SConstruct files, built by `scons`. -/
  | scons
  /-- Xcode projects, built by `xcodebuild`. -/
  | xcode
  deriving DecidableEq, Repr

namespace Format

/-- Every format, in the order of listings. -/
def all : List Format :=
  [gypd, make, msvs, scons, xcode]

/-- Every format is listed. -/
theorem mem_all (f : Format) : f ∈ all := by
  cases f <;> decide

/-- The name by which a format is selected. -/
def name : Format → String
  | gypd => "gypd"
  | make => "make"
  | msvs => "msvs"
  | scons => "scons"
  | xcode => "xcode"

/-- One line on a format, for listings. -/
def description : Format → String
  | gypd => "Generator data dump (no build tool)"
  | make => "Makefile builds"
  | msvs => "Visual Studio solution builds"
  | scons => "SCons builds"
  | xcode => "Xcode project builds"

/-- A name as names are compared: without blanks around it, in lower case. -/
def normalized (text : String) : String :=
  Text.lowerName (Text.trim text)

/-- The format that a text names. -/
def parse? (text : String) : Option Format :=
  all.find? fun f => f.name == normalized text

/-- What is said of a text that names no format. -/
def unknownMessage (text : String) : String :=
  "unknown format '" ++ text ++ "', valid values: gypd, make, msvs, scons, xcode"

/-- Every format is read back from its name. -/
theorem parse?_name (f : Format) : parse? f.name = some f := by
  cases f <;> rfl

/-- A text is read as the format whose name it is, but for case and blanks around it. -/
theorem parse?_eq_some_iff {text : String} {f : Format} :
    parse? text = some f ↔ normalized text = f.name := by
  rw [parse?]
  generalize normalized text = name
  constructor
  · intro h
    have hfound : (f.name == name) = true :=
      List.find?_some (p := fun g : Format => g.name == name) h
    exact (eq_of_beq hfound).symm
  · rintro rfl
    cases f <;> rfl

/-- Different formats have different names. -/
theorem name_injective {f g : Format} (h : f.name = g.name) : f = g := by
  have hf := parse?_name f
  rw [h, parse?_name g] at hf
  exact (Option.some.inj hf).symm

end Format

end CrossBuild
