import CqlWire.Codec.Registry
import CqlWire.Error
import CqlWire.Schema.Column
import CqlWire.Statement.Simple

/-!
# Prepared statements

A prepared statement is a query that the server has parsed and knows by an id.  It is made from the
request that asked for it and from the server's answer (`PrepareRequest.accept`).

All of it is fixed from then on, except for the shape of its results.  The server may report a new
shape at any time, and all statements bound from a prepared statement see it.  The current shapes
are kept apart, in a `ShapeRegister`: it holds the last report for each prepared statement, and
where there was none, the shape from the answer to the preparation stands.
-/

namespace CqlWire

/-- The shape of results: the id that the server knows it by, and the columns. -/
structure ResultShape where
  id : Option Bytes := none
  columns : Columns := []
  deriving Repr, Inhabited

/-- What statements bound from a prepared statement start with. -/
structure BoundDefaults where
  profile : Option String := none
  keyspace : Option String := none
  customPayload : CustomPayload := ∅
  idempotent : Option Bool := none

/-- A query that the server has parsed. -/
structure PreparedStatement where
  /-- Tells prepared statements apart, also such as share an id. -/
  handle : Nat
  id : Bytes
  query : String
  /-- The bind markers. -/
  markers : Columns
  /-- The bind markers that make up the partition key. -/
  partitionKey : List Nat
  /-- The shape of results at the time of the preparation. -/
  preparedShape : ResultShape
  boundDefaults : BoundDefaults
  /-- The entries that were sent along with the preparation. -/
  customPayload : CustomPayload
  /-- The codecs for the values that are bound. -/
  codecs : CodecRegistry
  version : ProtocolVersion

/-! ### Current shapes -/

/-- The reported shapes of results, by the handles of the prepared statements. -/
structure ShapeRegister where
  /-- The number of handles that have been given out. -/
  handles : Nat := 0
  reported : Std.ExtTreeMap Nat ResultShape := ∅

namespace ShapeRegister

/-- The current shape of the results of a prepared statement. -/
def current (register : ShapeRegister) (prepared : PreparedStatement) : ResultShape :=
  (register.reported[prepared.handle]?).getD prepared.preparedShape

/-- Notes that the server reported a new shape. -/
def report (register : ShapeRegister) (prepared : PreparedStatement) (id : Bytes)
    (columns : Columns) : ShapeRegister :=
  { register with
    reported := register.reported.insert prepared.handle { id := some id, columns } }

end ShapeRegister

/-! ### Preparation -/

/-- A request to prepare a query. -/
structure PrepareRequest where
  query : String
  /-- The attributes of the request itself. -/
  attributes : Attributes := {}
  boundProfile : Option String := none
  boundPayload : CustomPayload := ∅
  boundIdempotent : Option Bool := none

/-- The answer to a request to prepare a query. -/
structure PreparedAnswer where
  id : Bytes
  resultMetadataId : Option Bytes := none
  markers : MetadataBlock := {}
  result : MetadataBlock := {}
  deriving Repr, Inhabited

namespace PrepareRequest

/-- Asks for the query of a simple statement.  Statements bound later inherit its profile, keyspace,
custom payload and idempotence. -/
def ofStatement (statement : SimpleStatement) : PrepareRequest :=
  let source := statement.attributes
  { query := statement.query
    attributes := {
      keyspace := source.keyspace
      customPayload := source.customPayload
      profile := source.profile }
    boundProfile := source.profile
    boundPayload := source.customPayload
    boundIdempotent := source.idempotent }

/-- The request with a profile for the statements bound later. -/
def withBoundProfile (request : PrepareRequest) (profile : String) : PrepareRequest :=
  { request with boundProfile := some profile }

/-- The request with one more entry that the statements bound later send along. -/
def withBoundPayload (request : PrepareRequest) (key : String) (content : Bytes) :
    PrepareRequest :=
  { request with boundPayload := request.boundPayload.insert key content }

/-- The request with a mark whether the statements bound later can be repeated safely. -/
def withBoundIdempotence (request : PrepareRequest) (idempotent : Bool) : PrepareRequest :=
  { request with boundIdempotent := some idempotent }

/-- What the statements bound later start with.  Only the keyspace is that of the request. -/
def boundDefaults (request : PrepareRequest) : BoundDefaults :=
  { profile := request.boundProfile
    keyspace := request.attributes.keyspace
    customPayload := request.boundPayload
    idempotent := request.boundIdempotent }

/-- The prepared statement that an answer describes.  Its handle is the next one of the register. -/
def accept (request : PrepareRequest) (codecs : CodecRegistry) (version : ProtocolVersion)
    (response : PreparedAnswer) (register : ShapeRegister) :
    Except ClientError (PreparedStatement × ShapeRegister) := do
  let markers ← response.markers.columns.mapError ClientError.protocolViolation
  let columns ← response.result.columns.mapError ClientError.protocolViolation
  let prepared : PreparedStatement := {
    handle := register.handles
    id := response.id
    query := request.query
    markers
    partitionKey := response.markers.partitionKey.map UInt16.toNat
    preparedShape := { id := response.resultMetadataId, columns }
    boundDefaults := request.boundDefaults
    customPayload := request.attributes.customPayload
    codecs
    version }
  return (prepared, { register with handles := register.handles + 1 })

end PrepareRequest

end CqlWire
