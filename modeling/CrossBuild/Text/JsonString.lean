import CrossBuild.Text.Quoted

/-!
# Strings in JSON

A string of JSON stands between double quotes.  Quotes, backslashes and the
control characters of ASCII are escaped, and nothing else is.
-/
namespace CrossBuild.Text

/-- A number below 65536 in four hexadecimal digits. -/
def fourHexDigits (n : Nat) : List Char :=
  let digits := hexDigits n
  List.replicate (4 - digits.length) '0' ++ digits

/-- One character of a string in JSON. -/
def jsonChar (c : Char) : List Char :=
  match c.toNat with
  | 0x08 => ['\\', 'b']
  | 0x09 => ['\\', 't']
  | 0x0A => ['\\', 'n']
  | 0x0C => ['\\', 'f']
  | 0x0D => ['\\', 'r']
  | 0x22 => ['\\', '"']
  | 0x5C => ['\\', '\\']
  | n => if n < 0x20 then ['\\', 'u'] ++ fourHexDigits n else [c]

/-- A text as a string in JSON. -/
def jsonString (s : String) : String :=
  String.ofList ('"' :: s.toList.flatMap jsonChar ++ ['"'])

end CrossBuild.Text
