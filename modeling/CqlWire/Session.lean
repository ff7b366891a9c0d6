import CqlWire.Request.Frame
import CqlWire.Request.OfStatement
import CqlWire.Result

/-!
# Sessions

A session holds the context of a connection and what changes while it is used: which timestamps have
been handed out, and which shapes the results of prepared statements have.

The operations follow a request from its statement to its answer.  `Session.prepare` makes a
prepared statement, `Session.makeRequest` makes the request of a statement, and `Session.receive`
makes a page of an answer.  Making a request takes at most one timestamp, and takes it as soon as
the settings of the profile are known, also if the request is refused later.
-/

namespace CqlWire

/-- A connection in use. -/
structure Session where
  context : Context
  timestamps : TimestampSource
  shapes : ShapeRegister := {}

namespace Session

/-- The prepared statement that an answer describes. -/
def prepare (session : Session) (request : PrepareRequest) (response : PreparedAnswer) :
    Except ClientError (PreparedStatement × Session) := do
  let (prepared, shapes) ← request.accept session.context.codecs session.context.version response
    session.shapes
  return (prepared, { session with shapes })

/-- The current shape of the results of a prepared statement. -/
def shapeOf (session : Session) (prepared : PreparedStatement) : ResultShape :=
  session.shapes.current prepared

/-- Replaces the shape of the results of a prepared statement. -/
def reportShape (session : Session) (prepared : PreparedStatement) (id : Bytes)
    (columns : Columns) : Session :=
  { session with shapes := session.shapes.report prepared id columns }

/-- The time of the write that a request of this statement carries, and the session afterwards.  The
statement's own time is used if it has one. -/
def takeTimestamp (session : Session) (statement : Statement) : Timestamp × Session :=
  if statement.attributes.timestamp = Timestamp.unset then
    (session.timestamps.peek, { session with timestamps := session.timestamps.advance })
  else
    (statement.attributes.timestamp, session)

/-- The request of a statement under a given profile, and the session afterwards. -/
def makeRequest (session : Session) (profile : Profile) (statement : Statement) :
    Except ClientError Request × Session :=
  match RequestSettings.ofProfile profile with
  | .error error => (.error (.config error), session)
  | .ok settings =>
    let (timestamp, later) := session.takeTimestamp statement
    (statement.toRequest session.context { settings, timestamp, shapes := session.shapes }, later)

/-- The frame in which a request of a statement is sent. -/
def frame (session : Session) (statement : Statement) (request : Request) : Frame :=
  { version := session.context.version
    customPayload := statement.attributes.customPayload
    request }

/-- The columns of a rows answer, and the session afterwards. -/
def columnsOf (session : Session) (statement : Statement) (metadata : MetadataBlock) :
    Except ClientError (Columns × Session) := do
  let (columns, shapes) ← resultColumns session.shapes statement metadata
  return (columns, { session with shapes })

/-- The page that an answer stands for, and the session afterwards. -/
def receive (session : Session) (info : Execution) (message : ResultAnswer) :
    Except ClientError (ResultPage × Session) := do
  let (page, shapes) ← message.toPage session.context session.shapes info
  return (page, { session with shapes })

end Session

end CqlWire
