import CrossBuild.Error
import CrossBuild.Settings.Basic
import CrossBuild.Toml.Document

/-!
# Settings from text

A settings file is a TOML table.  Keys that are not known are passed over;
a known key with a value of the wrong type is a fault, and the first one in
the file is reported.  A group of settings may be written as a list as well,
its values in a fixed order.
-/
namespace CrossBuild

/-- A value of the wrong type. -/
structure Mismatch where
  /-- The value. -/
  value : Toml.Value
  /-- What should stand there. -/
  expected : String

/-- The fault that a value of the wrong type is. -/
def Mismatch.fault (x : Mismatch) : ConfigFault :=
  .wrongType x.value.found x.expected

namespace Settings

/-- A text, where one has to stand. -/
def readText (expected : String) : Toml.Value → Except Mismatch String
  | .scalar _ (.string text) => .ok text
  | v => .error ⟨v, expected⟩

/-- A name. -/
def readName (v : Toml.Value) : Except Mismatch (Option String) :=
  (readText "a string" v).map some

/-- A path. -/
def readPath (v : Toml.Value) : Except Mismatch (Option Path) :=
  (readText "path string" v).map fun text => some ⟨text⟩

/-- A list of paths. -/
def readPaths : Toml.Value → Except Mismatch (List Path)
  | .array _ items | .tables items =>
    items.mapM fun v => (readText "path string" v).map Path.mk
  | v => .error ⟨v, "a sequence"⟩

/-- The entries of a group of settings, given as a table, or as a list in the
order of `keys`. -/
def groupEntries (keys : List String) (expected : String) :
    Toml.Value → Except Mismatch Toml.Entries
  | .table _ _ entries => .ok entries
  | .array _ items | .tables items => .ok (keys.zip items)
  | .scalar _ .moment => .ok []
  | v => .error ⟨v, expected⟩

/-- Reads one entry of the tool paths. -/
def readTool (t : ToolPaths) (entry : String × Toml.Value) : Except Mismatch ToolPaths :=
  match entry.1 with
  | "make" => (readPath entry.2).map fun path => { t with make := path }
  | "scons" => (readPath entry.2).map fun path => { t with scons := path }
  | "xcodebuild" => (readPath entry.2).map fun path => { t with xcodebuild := path }
  | "devenv" => (readPath entry.2).map fun path => { t with devenv := path }
  | _ => .ok t

/-- Reads the tool paths. -/
def readTools (v : Toml.Value) : Except Mismatch ToolPaths :=
  (groupEntries ["make", "scons", "xcodebuild", "devenv"] "struct ToolsConfig" v).bind fun entries =>
    entries.foldlM readTool {}

/-- Reads one entry of the Visual Studio settings. -/
def readMsvsEntry (s : MsvsSettings) (entry : String × Toml.Value) : Except Mismatch MsvsSettings :=
  match entry.1 with
  | "version" => (readName entry.2).map fun version => { s with version }
  | "roots" => (readPaths entry.2).map fun roots => { s with roots }
  | _ => .ok s

/-- Reads the Visual Studio settings. -/
def readMsvs (v : Toml.Value) : Except Mismatch MsvsSettings :=
  (groupEntries ["version", "roots"] "struct MsvsConfig" v).bind fun entries =>
    entries.foldlM readMsvsEntry {}

/-- Reads one entry of a file. -/
def readEntry (s : Settings) (entry : String × Toml.Value) : Except Mismatch Settings :=
  match entry.1 with
  | "format" => (readName entry.2).map fun format => { s with format }
  | "generator" => (readPath entry.2).map fun generator => { s with generator }
  | "configuration" => (readName entry.2).map fun configuration => { s with configuration }
  | "tools" => (readTools entry.2).map fun tools => { s with tools }
  | "msvs" => (readMsvs entry.2).map fun msvs => { s with msvs }
  | _ => .ok s

/-- Why a text holds no settings. -/
inductive ReadFault where
  /-- It is no TOML. -/
  | malformed
  /-- A value has the wrong type. -/
  | mismatch (x : Mismatch)

/-- The settings that a text holds. -/
def ofText (text : String) : Except ReadFault Settings :=
  match Toml.parse? text with
  | none => .error .malformed
  | some (.table _ _ entries) => (entries.foldlM readEntry {}).mapError .mismatch
  | some _ => .error .malformed

/-- The fault in a word or two, without its place. -/
def ReadFault.fault : ReadFault → ConfigFault
  | malformed => .malformed
  | mismatch x => x.fault

/-- The fault together with the line of the file that it is in, and a mark
below the value. -/
def located (text message : String) (span : Toml.Span) : String :=
  let cs := text.toList
  let before := cs.take (cs.length - span.start)
  let row := before.count '\n'
  let column := (before.reverse.takeWhile (· != '\n')).length
  let content := (Text.splitOn '\n' text).getD row ""
  let marked := String.ofList ((cs.drop (cs.length - span.start)).take (span.start - span.stop))
  let width := max 1 (min marked.utf8ByteSize (content.utf8ByteSize - column))
  let number := toString (row + 1)
  let margin := String.ofList (List.replicate (number.length + 1) ' ')
  "TOML parse error at line " ++ number ++ ", column " ++ toString (column + 1) ++ "\n" ++
    margin ++ "|\n" ++
    number ++ " | " ++ content ++ "\n" ++
    margin ++ "|" ++ String.ofList (List.replicate (column + 1) ' ' ++ List.replicate width '^') ++
    "\n" ++ message ++ "\n"

/-- The fault with its place, for the log. -/
def ReadFault.report (text : String) : ReadFault → String
  | malformed => ConfigFault.malformed.message
  | mismatch x => located text x.fault.message x.value.span

end Settings

end CrossBuild
