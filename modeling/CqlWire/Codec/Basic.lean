import CqlWire.Codec.Varint
import CqlWire.Schema.ColumnType
import CqlWire.Text.Utf8

/-!
# Codecs

A codec writes the values of one kind as bytes and reads them back.  A codec is found either by the
kind of a value or by the type of a column; the two ways agree on every value that a codec can
write.  Null, unset values and tokens have no codec: the first two are not bytes at all, and the
written form of a token depends on its scheme alone.
-/

namespace CqlWire

/-- The codecs of the library. -/
inductive Codec where
  | boolean
  | int
  | bigint
  | double
  | text
  | blob
  | varint
  deriving DecidableEq, Repr

/-- What can go wrong when a value is written or read. -/
inductive CodecError where
  /-- No codec writes values of this kind. -/
  | noCodecForKind (kind : ValueKind)
  /-- No codec handles this column type. -/
  | noCodecForType (type : ColumnType)
  /-- A codec was given a value of another kind. -/
  | wrongValue (codec : Codec) (kind : ValueKind)
  /-- The bytes have the wrong length. -/
  | invalidLength (expected actual : Nat)
  /-- A number is longer than 128 bits. -/
  | overflow (length : Nat)
  /-- A truth value that is neither zero nor one. -/
  | invalidBoolean (byte : UInt8)
  /-- A text that is not well-formed. -/
  | invalidText (fault : Text.Utf8Fault)
  /-- What a codec from elsewhere reports in its own words. -/
  | reported (message : String)
  deriving Repr

namespace Codec

def columnType : Codec → NativeType
  | boolean => .boolean
  | int => .int
  | bigint => .bigint
  | double => .double
  | text => .text
  | blob => .blob
  | varint => .varint

def kind : Codec → ValueKind
  | boolean => .boolean
  | int => .int
  | bigint => .bigint
  | double => .double
  | text => .text
  | blob => .blob
  | varint => .varint

/-- The codec that writes values of a given kind. -/
def ofKind : ValueKind → Except CodecError Codec
  | .boolean => .ok boolean
  | .int => .ok int
  | .bigint => .ok bigint
  | .double => .ok double
  | .text => .ok text
  | .blob => .ok blob
  | .varint => .ok varint
  | kind => .error (.noCodecForKind kind)

/-- The codec of a native type, if there is one.  Counters and timestamps travel as 64-bit numbers,
ASCII text as text. -/
def ofNative? : NativeType → Option Codec
  | .boolean => some boolean
  | .int => some int
  | .bigint | .counter | .timestamp => some bigint
  | .double => some double
  | .text | .ascii => some text
  | .blob => some blob
  | .varint => some varint
  | _ => none

def ofType? : ColumnType → Option Codec
  | .native type => ofNative? type
  | _ => none

def ofType (type : ColumnType) : Except CodecError Codec :=
  match ofType? type with
  | some codec => .ok codec
  | none => .error (.noCodecForType type)

def encode : Codec → Value → Except CodecError Bytes
  | boolean, .boolean value => .ok [if value then 1 else 0]
  | int, .int value => .ok (Bytes.bigEndian 4 value.toUInt32.toNat)
  | bigint, .bigint value => .ok (Bytes.bigEndian 8 value.toUInt64.toNat)
  | double, .double value => .ok (Bytes.bigEndian 8 value.bits.toNat)
  | text, .text value => .ok (Bytes.ofString value)
  | blob, .blob value => .ok value
  | varint, .varint value => .ok (Varint.encode value)
  | codec, value => .error (.wrongValue codec value.kind)

/-- Reads with `read` if the bytes have the given width. -/
def fixedWidth (width : Nat) (bytes : Bytes) (read : Bytes → Except CodecError Value) :
    Except CodecError Value :=
  if bytes.length = width then read bytes else .error (.invalidLength width bytes.length)

/-- Reads a truth value from its only byte. -/
def decodeBoolean : Bytes → Except CodecError Value
  | [0] => .ok (.boolean false)
  | [1] => .ok (.boolean true)
  | byte :: _ => .error (.invalidBoolean byte)
  | [] => .error (.invalidLength 1 0)

def decode (codec : Codec) (bytes : Bytes) : Except CodecError Value :=
  match codec with
  | boolean => fixedWidth 1 bytes decodeBoolean
  | int => fixedWidth 4 bytes fun bytes => .ok (.int (Int32.ofInt bytes.toInt))
  | bigint => fixedWidth 8 bytes fun bytes => .ok (.bigint (Int64.ofInt bytes.toInt))
  | double => fixedWidth 8 bytes fun bytes => .ok (.double ⟨UInt64.ofNat bytes.toNat⟩)
  | text =>
    match bytes.toString? with
    | some value => .ok (.text value)
    | none => .error (.invalidText (Text.Utf8Fault.locate bytes))
  | blob => .ok (.blob bytes)
  | varint =>
    if bytes.isEmpty then .error (.invalidLength 1 0)
    else if Varint.maxLength < bytes.length then .error (.overflow bytes.length)
    else .ok (.varint (Varint.decode bytes))

end Codec

def CodecError.message : CodecError → String
  | noCodecForKind kind => s!"no codec for {kind.name}"
  | noCodecForType type => s!"no codec for {type}"
  | wrongValue codec kind => s!"{codec.columnType.name} codec cannot handle {kind.name}"
  | invalidLength expected actual => s!"expected {expected} bytes, got {actual}"
  | overflow length => s!"varint of {length} bytes overflows 128 bits"
  | invalidBoolean byte => s!"failed to decode value: InvalidBooleanValue({byte.toNat})"
  | invalidText fault => s!"invalid text: {fault.message}"
  | reported message => message

end CqlWire
