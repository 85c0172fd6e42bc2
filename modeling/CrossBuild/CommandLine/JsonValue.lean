import CrossBuild.Text.JsonString
import CrossBuild.Text.Search

/-!
# Values in JSON

The values that listings are made of, and their text: one entry a line,
indented by two spaces for every level.
-/
namespace CrossBuild

/-- A value in JSON. -/
inductive JsonValue where
  /-- A string. -/
  | string (text : String)
  /-- A list. -/
  | array (items : List JsonValue)
  /-- Named values, in order. -/
  | object (fields : List (String × JsonValue))

namespace JsonValue

/-- The start of a line at some level. -/
def indent (level : Nat) : String :=
  "".pushn ' ' (2 * level)

/-- Entries between brackets; none at all stand in one line. -/
def bracketed (level : Nat) (opening closing : String) (entries : List String) : String :=
  if entries.isEmpty then opening ++ closing
  else
    opening ++ "\n" ++
      Text.joinWith ",\n" (entries.map fun e => indent (level + 1) ++ e) ++
      "\n" ++ indent level ++ closing

mutual

/-- The text of a value whose first line is at some level. -/
def pretty (level : Nat) : JsonValue → String
  | string text => Text.jsonString text
  | array items => bracketed level "[" "]" (prettyItems (level + 1) items)
  | object fields => bracketed level "\x7b" "\x7d" (prettyFields (level + 1) fields)

/-- The texts of the items of a list. -/
def prettyItems (level : Nat) : List JsonValue → List String
  | [] => []
  | v :: rest => pretty level v :: prettyItems level rest

/-- The texts of named values. -/
def prettyFields (level : Nat) : List (String × JsonValue) → List String
  | [] => []
  | (key, v) :: rest =>
    (Text.jsonString key ++ ": " ++ pretty level v) :: prettyFields level rest

end

end JsonValue

end CrossBuild
