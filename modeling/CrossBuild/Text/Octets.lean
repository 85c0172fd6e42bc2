import CrossBuild.Text.Lossy

/-!
# Texts of octets

Where a text is handled byte by byte, each byte is one character below 256.
`ofText` gives the bytes of a text in this form, `toText` reads them back;
bytes that are no text are shown as `CrossBuild.Text.Lossy` says.
-/
namespace CrossBuild.Octets

/-- A byte as a character. -/
def ofByte (b : UInt8) : Char :=
  Char.ofNat b.toNat

/-- Bytes as a text of octets. -/
def ofBytes (data : ByteArray) : String :=
  String.ofList (data.toList.map ofByte)

/-- The bytes that a text of octets stands for. -/
def toBytes (s : String) : ByteArray :=
  s.foldl (fun data c => data.push c.toNat.toUInt8) ByteArray.empty

/-- The octets of a text. -/
def ofText (s : String) : String :=
  ofBytes s.toUTF8

/-- The text that octets stand for. -/
def toText (s : String) : String :=
  Text.decodeLossy (toBytes s).toList

end CrossBuild.Octets
