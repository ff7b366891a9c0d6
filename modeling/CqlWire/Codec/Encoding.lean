import CqlWire.Codec.Registry
import CqlWire.Error

/-!
# Encoding values for a request

A value becomes an encoded value either by what it is (values of a simple statement) or by the type
of the column that it is bound to; in both cases a registry finds the codec.  Null and unset stay
what they are, and the bytes of a token are those of its scheme, whatever the registry and the
column type.
-/

namespace CqlWire

namespace Token

/-- A place of the numeric ring as a signed number of 128 bits, if it is one. -/
def toInt128 (value : Nat) : Except TokenError Int128 :=
  if (BitVec.ofNat 128 value).toInt = value then .ok (BitVec.ofNat 128 value)
  else .error (.outOfRange value)

/-- The written form of a token: a hash as eight bytes, a ring position as the shortest form of the
number, a key as itself. -/
def encode : Token → Except TokenError Bytes
  | hash64 value => .ok (Bytes.bigEndian 8 value.toUInt64.toNat)
  | bigint value => return Varint.encode (← toInt128 value.val)
  | raw key => .ok key.bytes

end Token

namespace Value

/-- Encodes a value with the codec that `find` gives, if the value needs one. -/
def encodeWith (find : Except CodecError ValueCodec) (version : ProtocolVersion) :
    Value → Except ClientError EncodedValue
  | null => .ok .null
  | unset => .ok .unset
  | token position => return .bytes (← position.encode.mapError ClientError.token)
  | value => return .bytes (← (do (← find).encode value version).mapError ClientError.codec)

/-- Encodes a value by what it is. -/
def encode (codecs : CodecRegistry) (version : ProtocolVersion) (value : Value) :
    Except ClientError EncodedValue :=
  value.encodeWith (codecs.forValue value) version

/-- Encodes a value for a column of a known type. -/
def encodeFor (codecs : CodecRegistry) (version : ProtocolVersion) (type : ColumnType)
    (value : Value) : Except ClientError EncodedValue :=
  value.encodeWith (codecs.forType type) version

def encodePositional (codecs : CodecRegistry) (version : ProtocolVersion) (values : List Value) :
    Except ClientError (List EncodedValue) :=
  values.mapM (encode codecs version)

def encodeNamed (codecs : CodecRegistry) (version : ProtocolVersion)
    (values : List (String × Value)) : Except ClientError (List (String × EncodedValue)) :=
  values.mapM fun (name, value) => do return (name, ← value.encode codecs version)

end Value

end CqlWire
