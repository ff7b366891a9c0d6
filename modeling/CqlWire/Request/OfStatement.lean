import CqlWire.Context

/-!
# Requests from statements

The request that a statement stands for.  Besides its statement, a request needs the settings of a
profile, the current shape of the results of prepared statements, and the time of the write.

Refused here, before anything is written, are a statement with both positional and named values, a
batch child with named values, a keyspace that the protocol version can not carry, and a bind marker
without a value where the version knows no unset values.
-/

namespace CqlWire

/-- What a request takes from elsewhere than its statement. -/
structure RequestInputs where
  settings : RequestSettings
  timestamp : Timestamp
  /-- The current shapes of the results of prepared statements. -/
  shapes : ShapeRegister

/-- The values of a simple statement. -/
def SimpleStatement.boundValues (statement : SimpleStatement) (context : Context) :
    Except ClientError BoundValues :=
  if !statement.positional.isEmpty then
    return .positional
      (← Value.encodePositional context.codecs context.version statement.positional)
  else if !statement.named.isEmpty then
    return .named (← Value.encodeNamed context.codecs context.version statement.named)
  else
    return .empty

/-- The query request of a simple statement. -/
def SimpleStatement.toRequest (statement : SimpleStatement) (context : Context)
    (inputs : RequestInputs) : Except ClientError Request := do
  if !statement.positional.isEmpty && !statement.named.isEmpty then
    throw (.invalidArgument .mixedValues)
  context.checkKeyspace statement.attributes.keyspace
  let values ← statement.boundValues context
  return .query {
    query := statement.query
    options := {
      consistency := inputs.settings.consistency.code
      values
      pageSize := inputs.settings.pageSize
      pagingState := statement.attributes.pagingState
      serialConsistency := inputs.settings.serialConsistency.code
      timestamp := inputs.timestamp
      keyspace := statement.attributes.keyspace } }

/-- The execute request of a bound statement.  The server is told to leave out the metadata of the
result if its columns are known. -/
def BoundStatement.toRequest (statement : BoundStatement) (context : Context)
    (inputs : RequestInputs) : Except ClientError Request := do
  if !context.supports .unsetValues then statement.ensureAllSet
  let shape := inputs.shapes.current statement.prepared
  return .execute {
    id := statement.prepared.id
    resultMetadataId := shape.id
    options := {
      consistency := inputs.settings.consistency.code
      values := if statement.slots.isEmpty then .empty else .positional statement.slots
      skipMetadata := !shape.columns.isEmpty
      pageSize := inputs.settings.pageSize
      pagingState := statement.attributes.pagingState
      serialConsistency := inputs.settings.serialConsistency.code
      timestamp := inputs.timestamp } }

/-- A child of a batch as it is sent, with its values. -/
def BatchChild.toEntry (context : Context) :
    BatchChild → Except ClientError (BatchEntry × List EncodedValue)
  | simple statement =>
    if !statement.named.isEmpty then
      .error (.invalidArgument (.namedValuesInBatch statement.query))
    else do
      let values ← Value.encodePositional context.codecs context.version statement.positional
      return (.query statement.query, values)
  | bound statement => .ok (.prepared statement.prepared.id, statement.slots)

/-- The batch request of a batch.  The attributes of the children do not matter. -/
def BatchStatement.toRequest (statement : BatchStatement) (context : Context)
    (inputs : RequestInputs) : Except ClientError Request := do
  if !context.supports .unsetValues then statement.ensureAllSet
  context.checkKeyspace statement.attributes.keyspace
  let entries ← statement.children.mapM (BatchChild.toEntry context)
  return .batch {
    kind := statement.kind.code
    entries := entries.map (·.1)
    values := entries.map (·.2)
    consistency := inputs.settings.consistency.code
    serialConsistency := inputs.settings.serialConsistency.code
    timestamp := inputs.timestamp
    keyspace := statement.attributes.keyspace }

/-- The request of a statement. -/
def Statement.toRequest (statement : Statement) (context : Context) (inputs : RequestInputs) :
    Except ClientError Request :=
  match statement with
  | simple statement => statement.toRequest context inputs
  | bound statement => statement.toRequest context inputs
  | batch statement => statement.toRequest context inputs

end CqlWire
