import CqlWire.Codec.Basic
import CqlWire.Request.Message

/-!
# Failures of the library

The union of all failures that the library raises by itself, before or after it talks to a server.
What the server reports is no failure of this kind; see `CoordinatorError`.
-/

namespace CqlWire

/-- A failure of the library. -/
inductive ClientError where
  /-- The caller asked for something that a request can not express. -/
  | invalidArgument (fault : ArgumentFault)
  /-- The statement is not in a state in which it can be sent. -/
  | illegalState (fault : StateFault)
  /-- The server answered with something that the protocol does not allow here. -/
  | protocolViolation (fault : ProtocolFault)
  | token (error : TokenError)
  | codec (error : CodecError)
  | config (error : ConfigError)
  | frame (error : FrameError)
  deriving Repr

/-- The wording of a failure; that of a wrapped error is not changed. -/
def ClientError.message : ClientError → String
  | invalidArgument fault => "invalid argument: " ++ fault.message
  | illegalState fault => "illegal state: " ++ fault.message
  | protocolViolation fault => "protocol violation: " ++ fault.message
  | token error => error.message
  | codec error => error.message
  | config error => error.message
  | frame error => error.message

end CqlWire
