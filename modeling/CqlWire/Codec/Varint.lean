import CqlWire.Value

/-!
# Numbers of variable width

A 128-bit number is written in two's complement, most significant byte first, without the leading
bytes that only repeat the sign.  At least one byte is always written.
-/

namespace CqlWire.Varint

/-- Whether the first byte only repeats the sign that the second one carries. -/
def repeatsSign (first second : UInt8) : Bool :=
  (first == 0x00 && second < 0x80) || (first == 0xFF && 0x80 ≤ second)

/-- The bytes without the leading ones that only repeat the sign. -/
def dropSignBytes : Bytes → Bytes
  | first :: second :: rest =>
    if repeatsSign first second then dropSignBytes (second :: rest) else first :: second :: rest
  | bytes => bytes

/-- The shortest written form of a number. -/
def encode (value : Int128) : Bytes :=
  dropSignBytes (Bytes.bigEndian 16 value.toNat)

/-- The longest form that is read. -/
abbrev maxLength : Nat := 16

/-- The number that the bytes stand for. -/
def decode (bytes : Bytes) : Int128 :=
  BitVec.ofInt 128 bytes.toInt

end CqlWire.Varint
