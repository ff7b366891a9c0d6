import CqlWire.Codec.Basic
import CqlWire.Protocol.Version

/-!
# Registries of codecs

Which codec writes a value, and which one reads a column, is decided by a registry, which a context
may replace.  `CodecRegistry.standard` is the usual one, with the codecs of the library.  A codec
from elsewhere may do as it likes: it is told the protocol version, and it may refuse any value and
any bytes.
-/

namespace CqlWire

/-- A codec of a registry.  Those of the library do not look at the version. -/
structure ValueCodec where
  /-- The type of the columns that it is made for. -/
  columnType : ColumnType
  encode : Value → ProtocolVersion → Except CodecError Bytes
  decode : Bytes → ProtocolVersion → Except CodecError Value

/-- Finds codecs for values and for columns. -/
structure CodecRegistry where
  /-- The codec that writes a value, by what the value is. -/
  forValue : Value → Except CodecError ValueCodec
  /-- The codec that writes and reads the values of columns of a type. -/
  forType : ColumnType → Except CodecError ValueCodec

/-- A codec of the library as one of a registry. -/
def Codec.toValueCodec (codec : Codec) : ValueCodec where
  columnType := .native codec.columnType
  encode value _ := codec.encode value
  decode bytes _ := codec.decode bytes

/-- The registry of the codecs of the library. -/
def CodecRegistry.standard : CodecRegistry where
  forValue value := (Codec.ofKind value.kind).map Codec.toValueCodec
  forType type := (Codec.ofType type).map Codec.toValueCodec

end CqlWire
