/-!
# Bytes as text

Program output is a sequence of bytes and is shown as text.  Bytes that are
UTF-8 read as the text they encode; a longest run of bytes that begins a
character and cannot be continued, and any other byte that begins none,
reads as one replacement character.
-/
namespace CrossBuild.Text

/-- The character that stands for bytes that are no text. -/
def replacement : Char := Char.ofNat 0xFFFD

/-- The bytes that may follow a lead byte, as the count of bytes after it and
the range of the first of these.  Overlong forms, surrogates and numbers
past the last code point are kept out by the range. -/
def continuation? (lead : UInt8) : Option (Nat × UInt8 × UInt8) :=
  if 0xC2 ≤ lead && lead ≤ 0xDF then some (1, 0x80, 0xBF)
  else if lead == 0xE0 then some (2, 0xA0, 0xBF)
  else if lead == 0xED then some (2, 0x80, 0x9F)
  else if 0xE1 ≤ lead && lead ≤ 0xEF then some (2, 0x80, 0xBF)
  else if lead == 0xF0 then some (3, 0x90, 0xBF)
  else if lead == 0xF4 then some (3, 0x80, 0x8F)
  else if 0xF1 ≤ lead && lead ≤ 0xF3 then some (3, 0x80, 0xBF)
  else none

/-- The payload of a lead byte that `n` bytes follow. -/
def leadBits (n : Nat) (lead : UInt8) : Nat :=
  match n with
  | 1 => lead.toNat - 0xC0
  | 2 => lead.toNat - 0xE0
  | _ => lead.toNat - 0xF0

/-- The state of a decoder between two bytes: either nothing is pending, or
`missing` more bytes are due, the next of them between `low` and `high`. -/
structure Pending where
  /-- The number of bytes still due; zero when nothing is pending. -/
  missing : Nat
  /-- The least byte that continues the character. -/
  low : UInt8
  /-- The greatest byte that continues the character. -/
  high : UInt8
  /-- The bits read so far. -/
  bits : Nat

/-- The state in which no character has begun. -/
def Pending.idle : Pending := ⟨0, 0, 0, 0⟩

/-- Reads a byte that does not continue a character: the text it ends, and the new state. -/
def beginChar (b : UInt8) : List Char × Pending :=
  if b < 0x80 then ([Char.ofNat b.toNat], .idle)
  else
    match continuation? b with
    | some (n, low, high) => ([], ⟨n, low, high, leadBits n b⟩)
    | none => ([replacement], .idle)

/-- Reads one byte. -/
def Pending.step (p : Pending) (b : UInt8) : List Char × Pending :=
  if p.missing = 0 then beginChar b
  else if p.low ≤ b && b ≤ p.high then
    let bits := 64 * p.bits + (b.toNat - 0x80)
    if p.missing = 1 then ([Char.ofNat bits], .idle)
    else ([], ⟨p.missing - 1, 0x80, 0xBF, bits⟩)
  else
    let (out, next) := beginChar b
    (replacement :: out, next)

/-- The text of the bytes that follow in a state. -/
def decodeFrom (p : Pending) : List UInt8 → List Char
  | [] => if p.missing = 0 then [] else [replacement]
  | b :: bs =>
    let (out, next) := p.step b
    out ++ decodeFrom next bs

/-- Any bytes as text, with a replacement character where they are none. -/
def decodeLossy (bytes : List UInt8) : String :=
  String.ofList (decodeFrom .idle bytes)

end CrossBuild.Text
