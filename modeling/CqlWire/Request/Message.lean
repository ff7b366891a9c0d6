import CqlWire.Config.Consistency
import CqlWire.Request.Field
import CqlWire.Timestamp

/-!
# Request messages

The three requests that run statements: QUERY carries a text, EXECUTE the id of a prepared
statement, and BATCH a list of both.  The optional parts of a request are announced by flags.
-/

namespace CqlWire

/-- The values attached to a query or execute request. -/
inductive BoundValues where
  /-- No values at all: no block is written. -/
  | empty
  | positional (values : List EncodedValue)
  | named (values : List (String × EncodedValue))
  deriving DecidableEq, Repr

namespace BoundValues

def length : BoundValues → Nat
  | empty => 0
  | positional values => values.length
  | named values => values.length

def isEmpty : BoundValues → Bool
  | empty => true
  | positional values => values.isEmpty
  | named values => values.isEmpty

def isNamed : BoundValues → Bool
  | named _ => true
  | _ => false

/-- The block of values; nothing is written if there are none. -/
def encode (version : ProtocolVersion) : BoundValues → Encoded
  | positional (value :: values) => Field.positionalValues version (value :: values)
  | named (value :: values) => Field.namedValues version (value :: values)
  | _ => .ok []

end BoundValues

/-! ### Flags -/

/-- The flags of a request. -/
inductive RequestFlag where
  | values
  | skipMetadata
  | pageSize
  | pagingState
  | serialConsistency
  | timestamp
  | valueNames
  | keyspace
  deriving DecidableEq, Repr

def RequestFlag.mask : RequestFlag → UInt8
  | values => 0x01
  | skipMetadata => 0x02
  | pageSize => 0x04
  | pagingState => 0x08
  | serialConsistency => 0x10
  | timestamp => 0x20
  | valueNames => 0x40
  | keyspace => 0x80

/-- The flags of a request, one bit each. -/
abbrev RequestFlags := UInt8

namespace RequestFlags

/-- The flags whose conditions hold. -/
def ofConditions (conditions : List (RequestFlag × Bool)) : RequestFlags :=
  conditions.foldl (fun flags (flag, present) => if present then flags ||| flag.mask else flags) 0

def has (flags : RequestFlags) (flag : RequestFlag) : Bool :=
  flags &&& flag.mask != 0

/-- The field of flags.  Where flags take a single byte, a request can not name its keyspace. -/
def encode (version : ProtocolVersion) (flags : RequestFlags) : Encoded :=
  if version.hasWideFlags then Field.number 4 flags.toNat
  else if flags.has .keyspace then .error (.unsupported .requestKeyspace version)
  else Field.number 1 flags.toNat

end RequestFlags

/-! ### Parts that all requests share -/

/-- Whether a serial consistency has to be written; the usual one is left out. -/
def writesSerialConsistency (code : UInt16) : Bool :=
  code != Consistency.serial.code

/-- Whether a timestamp has to be written. -/
def writesTimestamp (timestamp : Timestamp) : Bool :=
  timestamp != Timestamp.unset

namespace Field

/-- The serial consistency, unless it is the usual one. -/
def serialConsistency (code : UInt16) : Encoded :=
  onlyIf (writesSerialConsistency code) (number 2 code.toNat)

/-- The timestamp, unless there is none. -/
def timestamp (timestamp : Timestamp) : Encoded :=
  onlyIf (writesTimestamp timestamp) (number 8 timestamp.toUInt64.toNat)

end Field

/-! ### Requests -/

/-- The options of query and execute requests. -/
structure QueryParameters where
  /-- The code of the consistency level. -/
  consistency : UInt16 := Consistency.one.code
  values : BoundValues := .empty
  skipMetadata : Bool := false
  /-- A number that is not positive means no paging. -/
  pageSize : Int32 := -1
  pagingState : Option Bytes := none
  /-- The code of the serial consistency level. -/
  serialConsistency : UInt16 := Consistency.serial.code
  timestamp : Timestamp := Timestamp.unset
  keyspace : Option String := none
  deriving DecidableEq, Repr

namespace QueryParameters

/-- Whether the options ask for pages. -/
def isPaged (options : QueryParameters) : Bool := 0 < options.pageSize

/-- The flags that announce the optional parts. -/
def flags (options : QueryParameters) : RequestFlags :=
  .ofConditions [
    (.values, !options.values.isEmpty),
    (.skipMetadata, options.skipMetadata),
    (.pageSize, options.isPaged),
    (.pagingState, options.pagingState.isSome),
    (.serialConsistency, writesSerialConsistency options.serialConsistency),
    (.timestamp, writesTimestamp options.timestamp),
    (.valueNames, !options.values.isEmpty && options.values.isNamed),
    (.keyspace, options.keyspace.isSome)]

/-- The options in the order in which they are written. -/
def encode (version : ProtocolVersion) (options : QueryParameters) : Encoded :=
  .concat [
    Field.number 2 options.consistency.toNat,
    options.flags.encode version,
    options.values.encode version,
    Field.onlyIf options.isPaged (Field.number 4 options.pageSize.toUInt32.toNat),
    Field.optional Field.bytes options.pagingState,
    Field.serialConsistency options.serialConsistency,
    Field.timestamp options.timestamp,
    Field.optional Field.string options.keyspace]

end QueryParameters

/-- QUERY: runs a text. -/
structure QueryRequest where
  query : String
  options : QueryParameters
  deriving DecidableEq, Repr

/-- EXECUTE: runs a prepared statement. -/
structure ExecuteRequest where
  id : Bytes
  /-- The shape of the result that the client knows; sent from version 5 on. -/
  resultMetadataId : Option Bytes
  options : QueryParameters
  deriving DecidableEq, Repr

/-- A child of a batch. -/
inductive BatchEntry where
  | query (text : String)
  | prepared (id : Bytes)
  deriving DecidableEq, Repr

/-- A child of a batch behind the byte that tells texts from ids. -/
def BatchEntry.encode : BatchEntry → Encoded
  | query text => .concat [Field.number 1 0, Field.longString text]
  | prepared id => .concat [Field.number 1 1, Field.shortBytes id]

/-- BATCH: runs several statements as one request. -/
structure BatchRequest where
  /-- The code of the kind of batch. -/
  kind : UInt8
  entries : List BatchEntry
  /-- One list of values for each child, in the order of the children. -/
  values : List (List EncodedValue)
  consistency : UInt16 := Consistency.one.code
  serialConsistency : UInt16 := Consistency.serial.code
  timestamp : Timestamp := Timestamp.unset
  keyspace : Option String := none
  deriving DecidableEq, Repr

/-- The flags that announce the optional parts of a batch. -/
def BatchRequest.flags (batch : BatchRequest) : RequestFlags :=
  .ofConditions [
    (.serialConsistency, writesSerialConsistency batch.serialConsistency),
    (.timestamp, writesTimestamp batch.timestamp),
    (.keyspace, batch.keyspace.isSome)]

/-- A request that runs a statement. -/
inductive Request where
  | query (request : QueryRequest)
  | execute (request : ExecuteRequest)
  | batch (request : BatchRequest)
  deriving DecidableEq, Repr

def Request.opcode : Request → UInt8
  | query _ => 0x07
  | execute _ => 0x0A
  | batch _ => 0x0D

/-! ### Bodies -/

def QueryRequest.encode (version : ProtocolVersion) (request : QueryRequest) : Encoded :=
  .concat [Field.longString request.query, request.options.encode version]

def ExecuteRequest.encode (version : ProtocolVersion) (request : ExecuteRequest) : Encoded :=
  .concat [
    Field.shortBytes request.id,
    Field.onlyIf version.sendsResultMetadataId
      (Field.shortBytes (request.resultMetadataId.getD [])),
    request.options.encode version]

/-- The body of a batch.  The number of children is written first, then the children that have
values, each with its values, then the options. -/
def BatchRequest.encode (version : ProtocolVersion) (batch : BatchRequest) : Encoded :=
  .concat [
    Field.number 1 batch.kind.toNat,
    Field.length .batch batch.entries.length,
    .concat ((batch.entries.zip batch.values).flatMap fun (entry, values) =>
      [entry.encode, Field.positionalValues version values]),
    Field.number 2 batch.consistency.toNat,
    batch.flags.encode version,
    Field.serialConsistency batch.serialConsistency,
    Field.timestamp batch.timestamp,
    Field.optional Field.string batch.keyspace]

/-- The body of a request. -/
def Request.encode (version : ProtocolVersion) : Request → Encoded
  | query request => request.encode version
  | execute request => request.encode version
  | batch request => request.encode version

end CqlWire
