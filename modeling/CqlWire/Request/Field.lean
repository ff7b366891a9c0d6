import CqlWire.Protocol.Version
import CqlWire.Value
import Std.Data.ExtTreeMap

/-!
# Fields on the wire

The pieces that requests are made of: texts and byte strings behind their length, counted lists, and
encoded values.  Writing a field either gives its bytes or the reason why it can not be written: its
length does not fit into the room for it, or the protocol version has no such field.  A request is a
list of fields (`Encoded.concat`), and the first field that can not be written decides.

The functions of `FieldSize` give the size of a field without writing it; a field that can be
written takes exactly that many bytes.
-/

namespace CqlWire

/-- The fields that are written behind a length. -/
inductive FieldKind where
  | string
  | longString
  | shortBytes
  | bytes
  | bytesMap
  | batch
  | values
  | frameBody
  deriving DecidableEq, Repr

namespace FieldKind

def name : FieldKind → String
  | string => "string"
  | longString => "long string"
  | shortBytes => "short bytes"
  | bytes => "bytes"
  | bytesMap => "bytes map"
  | batch => "batch"
  | values => "values"
  | frameBody => "frame body"

/-- The number of bytes in which the length is written. -/
def lengthWidth : FieldKind → Nat
  | longString | bytes | frameBody => 4
  | _ => 2

/-- The least length that can not be written: the length of a long string or of bytes is a signed
number, the others are unsigned. -/
def lengthLimit : FieldKind → Nat
  | longString | bytes => Nat.pow 2 31
  | frameBody => Nat.pow 2 32
  | _ => Nat.pow 2 16

end FieldKind

/-- Why a frame can not be written. -/
inductive FrameError where
  /-- A length does not fit into the room for it. -/
  | tooLong (field : FieldKind) (length : Nat)
  /-- The protocol version has no place for this. -/
  | unsupported (feature : Feature) (version : ProtocolVersion)
  deriving DecidableEq, Repr

def Feature.wireName : Feature → String
  | unsetValues => "unset values"
  | requestKeyspace => "per-request keyspace"
  | customPayload => "custom payload"

def FrameError.message : FrameError → String
  | tooLong field length => s!"{field.name} of {length} bytes does not fit its length prefix"
  | unsupported feature version => s!"{feature.wireName} not supported by protocol {version}"

/-- The result of writing: bytes, or the reason why there are none. -/
abbrev Encoded := Except FrameError Bytes

/-- Writes fields one after the other; the first one that can not be written decides. -/
def Encoded.concat (fields : List Encoded) : Encoded := do
  return (← fields.mapM id).flatten

/-- Entries that a client sends along with a request, by increasing key. -/
abbrev CustomPayload := Std.ExtTreeMap String Bytes

/-! ### Writing -/

namespace Field

/-- A number of fixed width. -/
def number (width n : Nat) : Encoded := .ok (Bytes.bigEndian width n)

/-- The length of a field. -/
def length (kind : FieldKind) (length : Nat) : Encoded :=
  if length < kind.lengthLimit then number kind.lengthWidth length
  else .error (.tooLong kind length)

/-- Bytes behind their length. -/
def delimited (kind : FieldKind) (content : Bytes) : Encoded := do
  return (← length kind content.length) ++ content

/-- A text with a length of two bytes. -/
def string (text : String) : Encoded := delimited .string (Bytes.ofString text)

/-- A text with a length of four bytes. -/
def longString (text : String) : Encoded := delimited .longString (Bytes.ofString text)

/-- Bytes with a length of two bytes. -/
def shortBytes (content : Bytes) : Encoded := delimited .shortBytes content

/-- Bytes with a length of four bytes. -/
def bytes (content : Bytes) : Encoded := delimited .bytes content

/-- An encoded value: its bytes, or a negative number in place of their length. -/
def value (version : ProtocolVersion) : EncodedValue → Encoded
  | .bytes content => bytes content
  | .null => .ok [0xFF, 0xFF, 0xFF, 0xFF]
  | .unset =>
    if version.writesUnset then .ok [0xFF, 0xFF, 0xFF, 0xFE]
    else .error (.unsupported .unsetValues version)

/-- Values behind their number. -/
def positionalValues (version : ProtocolVersion) (values : List EncodedValue) : Encoded :=
  Encoded.concat (length .values values.length :: values.map (value version))

/-- Named values behind their number. -/
def namedValues (version : ProtocolVersion) (values : List (String × EncodedValue)) : Encoded :=
  Encoded.concat (length .values values.length ::
    values.flatMap fun (name, content) => [string name, value version content])

/-- The entries of a custom payload behind their number. -/
def bytesMap (payload : CustomPayload) : Encoded :=
  Encoded.concat (length .bytesMap payload.size ::
    payload.toList.flatMap fun (key, content) => [string key, bytes content])

/-- A field that may be absent; nothing is written then. -/
def optional {α : Type} (write : α → Encoded) : Option α → Encoded
  | none => .ok []
  | some content => write content

/-- A field that is written only under a condition. -/
def onlyIf (present : Bool) (field : Encoded) : Encoded :=
  if present then field else .ok []

end Field

/-! ### Sizes -/

namespace FieldSize

def string (text : String) : Nat := 2 + text.utf8ByteSize

def longString (text : String) : Nat := 4 + text.utf8ByteSize

def shortBytes (content : Bytes) : Nat := 2 + content.length

def bytes (content : Bytes) : Nat := 4 + content.length

/-- The size of an encoded value. -/
def value : EncodedValue → Nat
  | .bytes content => bytes content
  | .null | .unset => 4

/-- The size of fields one after the other. -/
def total : List Nat → Nat
  | [] => 0
  | size :: sizes => size + total sizes

def positionalValues (values : List EncodedValue) : Nat :=
  2 + total (values.map value)

def namedValues (values : List (String × EncodedValue)) : Nat :=
  2 + total (values.map fun (name, content) => string name + value content)

def bytesMap (payload : CustomPayload) : Nat :=
  2 + total (payload.toList.map fun (key, content) => string key + bytes content)

end FieldSize

end CqlWire
