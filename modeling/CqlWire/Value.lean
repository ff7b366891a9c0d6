import CqlWire.Token

/-!
# Values

The values that a user supplies for bind markers and reads from rows, and their encoded form.
-/

namespace CqlWire

/-- A double-precision number, held by its IEEE 754 bit pattern. -/
structure Double where
  bits : UInt64
  deriving DecidableEq, Repr

/-- A signed integer of 128 bits. -/
abbrev Int128 := BitVec 128

/-- A value. -/
inductive Value where
  | null
  /-- Leaves the bind marker unset. -/
  | unset
  | boolean (value : Bool)
  | int (value : Int32)
  | bigint (value : Int64)
  | double (value : Double)
  | text (value : String)
  | blob (value : Bytes)
  | varint (value : Int128)
  | token (value : Token)
  deriving DecidableEq, Repr

/-- The kinds of values. -/
inductive ValueKind where
  | null | unset | boolean | int | bigint | double | text | blob | varint | token
  deriving DecidableEq, Repr

def ValueKind.name : ValueKind → String
  | null => "null"
  | unset => "unset"
  | boolean => "boolean"
  | int => "int"
  | bigint => "bigint"
  | double => "double"
  | text => "text"
  | blob => "blob"
  | varint => "varint"
  | token => "token"

/-- The kind of a value. -/
def Value.kind : Value → ValueKind
  | null => .null
  | unset => .unset
  | boolean _ => .boolean
  | int _ => .int
  | bigint _ => .bigint
  | double _ => .double
  | text _ => .text
  | blob _ => .blob
  | varint _ => .varint
  | token _ => .token

/-- An encoded value as it travels in a request. -/
inductive EncodedValue where
  /-- Explicit null. -/
  | null
  /-- Left unset: the server keeps what it has for this column. -/
  | unset
  | bytes (content : Bytes)
  deriving DecidableEq, Repr, Inhabited

/-- Whether a value was left unset. -/
def EncodedValue.isUnset : EncodedValue → Bool
  | unset => true
  | _ => false

theorem EncodedValue.isUnset_iff {slot : EncodedValue} : slot.isUnset ↔ slot = .unset := by
  cases slot <;> simp [isUnset]

end CqlWire
