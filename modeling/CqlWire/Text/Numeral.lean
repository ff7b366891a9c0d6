/-!
# Numerals

Reading a decimal numeral, with or without a sign, and writing a number in hexadecimal.  A numeral
has at least one digit, only ASCII digits count, and leading zeros are allowed.
-/

namespace CqlWire.Text

/-- The number that a decimal digit stands for. -/
def digitValue (digit : Char) : Nat := digit.toNat - '0'.toNat

/-- The number that a non-empty run of decimal digits stands for. -/
def readDigits? (chars : List Char) : Option Nat :=
  if !chars.isEmpty && chars.all Char.isDigit then
    some (chars.foldl (fun n c => 10 * n + digitValue c) 0)
  else
    none

/-- Reads a natural number: digits, which a plus sign may precede. -/
def readNat? : List Char → Option Nat
  | '+' :: digits => readDigits? digits
  | digits => readDigits? digits

/-- A byte with one more digit behind it, unless that is too large for a byte. -/
def pushDigit? (byte : UInt8) (digit : Char) : Option UInt8 :=
  if 10 * byte.toNat + digitValue digit < 256 then
    some (10 * byte + UInt8.ofNat (digitValue digit))
  else
    none

/-- The number that a non-empty run of decimal digits stands for, if it fits in a byte. -/
def readByteDigits? (chars : List Char) : Option UInt8 :=
  if !chars.isEmpty && chars.all Char.isDigit then
    chars.foldlM pushDigit? 0
  else
    none

/-- Reads a number that fits in a byte: digits, which a plus sign may precede. -/
def readByte? : List Char → Option UInt8
  | '+' :: digits => readByteDigits? digits
  | digits => readByteDigits? digits

/-- Reads an integer: digits, which one sign may precede. -/
def readInt? : List Char → Option Int
  | '-' :: digits => (readDigits? digits).map fun n => -(n : Int)
  | chars => (readNat? chars).map Int.ofNat

/-- Reads an integer that fits in two's complement of the given number of bits. -/
def readSigned? (bits : Nat) (text : String) : Option Int :=
  (readInt? text.toList).filter fun n => -Int.pow 2 (bits - 1) ≤ n && n < Int.pow 2 (bits - 1)

/-- A number in lowercase hexadecimal, filled up with zeros to at least `width` digits. -/
def hexadecimal (width n : Nat) : String :=
  let digits := Nat.toDigits 16 n
  String.ofList (List.replicate (width - digits.length) '0' ++ digits)

end CqlWire.Text
