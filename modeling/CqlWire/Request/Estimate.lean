import CqlWire.Context

/-!
# Size estimates

How many bytes a request takes at least, told from its statement without writing the request.  The
estimate has two parts: what every request has, and the values of the statement, whose size is
exact.  The text of the query and most optional parts are left out.
-/

namespace CqlWire

/-- The size that a request has at least, whatever its kind: header, custom payload, flags,
consistency and serial consistency. -/
def Statement.minimumRequestSize (context : Context) (statement : Statement) : Nat :=
  let payload := statement.attributes.customPayload
  let payloadSize :=
    if !payload.isEmpty && context.supports .customPayload then FieldSize.bytesMap payload else 0
  context.version.headerSize + payloadSize + context.version.flagsSize + 2 + 2

def SimpleStatement.sizeOfValues (context : Context) (statement : SimpleStatement) :
    Except ClientError Nat :=
  if !statement.positional.isEmpty then
    return FieldSize.positionalValues
      (← Value.encodePositional context.codecs context.version statement.positional)
  else if !statement.named.isEmpty then
    return FieldSize.namedValues
      (← Value.encodeNamed context.codecs context.version statement.named)
  else
    return 0

def BatchChild.sizeOfValues (context : Context) : BatchChild → Except ClientError Nat
  | simple statement =>
    return FieldSize.positionalValues
      (← Value.encodePositional context.codecs context.version statement.positional)
  | bound statement => return FieldSize.positionalValues statement.slots

/-- The size of the values that a statement sends. -/
def Statement.sizeOfValues (context : Context) : Statement → Except ClientError Nat
  | simple statement => statement.sizeOfValues context
  | bound statement =>
    return if statement.slots.isEmpty then 0 else FieldSize.positionalValues statement.slots
  | batch statement =>
    return FieldSize.total (← statement.children.mapM (BatchChild.sizeOfValues context))

end CqlWire
