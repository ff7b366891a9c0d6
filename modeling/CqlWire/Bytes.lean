/-!
# Byte strings

Everything that travels on the wire is a list of bytes.  This module holds the big-endian reading
and writing of numbers, the passage between text and its UTF-8 bytes, and the two ways in which
bytes are printed (as hexadecimal digits and as a quoted literal).

`length_bigEndian` fixes the width of a written number; `toString?_ofString` says that text is
recovered from its bytes.
-/

namespace CqlWire

/-- A byte string. -/
abbrev Bytes := List UInt8

namespace Bytes

/-! ### Numbers -/

/-- The `width` low digits of `n` in base 256, most significant digit first. -/
def bigEndian : (width n : Nat) → Bytes
  | 0, _ => []
  | width + 1, n => UInt8.ofNat (n / Nat.pow 256 width) :: bigEndian width n

/-- A written number takes exactly its width. -/
@[simp] theorem length_bigEndian (width n : Nat) : (bigEndian width n).length = width := by
  induction width with
  | zero => rfl
  | succ width ih => simp [bigEndian, ih]

/-- The number whose base 256 digits, most significant first, are the given bytes. -/
def toNat (bytes : Bytes) : Nat :=
  bytes.foldl (fun n byte => 256 * n + byte.toNat) 0

/-- The number that the given bytes stand for in two's complement, most significant byte first. -/
def toInt (bytes : Bytes) : Int :=
  Int.bmod bytes.toNat (Nat.pow 256 bytes.length)

/-! ### Text -/

/-- The UTF-8 bytes of a text. -/
def ofString (text : String) : Bytes :=
  text.toByteArray.data.toList

/-- The text whose UTF-8 bytes are given, if the bytes are well-formed. -/
def toString? (bytes : Bytes) : Option String :=
  String.fromUTF8? ⟨bytes.toArray⟩

/-- The size of a text is the number of its UTF-8 bytes. -/
@[simp] theorem length_ofString (text : String) : (ofString text).length = text.utf8ByteSize := by
  exact Array.length_toList

/-- A text is recovered from its bytes. -/
@[simp] theorem toString?_ofString (text : String) : toString? (ofString text) = some text := by
  simp [toString?, ofString, String.fromUTF8?, text.isValidUTF8, String.fromUTF8]

/-! ### Printing -/

/-- The lowercase hexadecimal digit of a number below 16. -/
def hexDigit (n : Nat) : Char :=
  if n < 10 then Char.ofNat ('0'.toNat + n) else Char.ofNat ('a'.toNat + (n - 10))

/-- Two lowercase hexadecimal digits for each byte. -/
def toHex (bytes : Bytes) : String :=
  String.ofList (bytes.flatMap fun byte => [hexDigit (byte.toNat / 16), hexDigit (byte.toNat % 16)])

/-- How one byte is written inside a quoted literal: the usual escapes, printable ASCII as it
stands, and two hexadecimal digits after `\x` for all else. -/
def escapeByte (byte : UInt8) : String :=
  if byte = 0 then "\\0"
  else if byte = 9 then "\\t"
  else if byte = 10 then "\\n"
  else if byte = 13 then "\\r"
  else if byte = 34 then "\\\""
  else if byte = 92 then "\\\\"
  else if 32 ≤ byte ∧ byte < 127 then String.singleton (Char.ofNat byte.toNat)
  else "\\x" ++ toHex [byte]

/-- The bytes as a literal: a `b`, then the escaped bytes between double quotes. -/
def quoted (bytes : Bytes) : String :=
  "b\"" ++ String.join (bytes.map escapeByte) ++ "\""

end Bytes

end CqlWire
