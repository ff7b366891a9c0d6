import CqlWire.Error
import CqlWire.Text.Outline

/-!
# Outlines of failures

The command line shows a failure whole, as an outline, and not by its wording alone.  What a request
made from plain arguments can run into is outlined down to its fields; the remaining failures are
outlined by their kind and their wording.
-/

namespace CqlWire

/-- The outline of an option: its name without the path. -/
def ConfigOption.outline : ConfigOption → Text.Outline
  | requestConsistency => .tuple "RequestConsistency" []
  | requestSerialConsistency => .tuple "RequestSerialConsistency" []
  | requestPageSize => .tuple "RequestPageSize" []
  | requestTimeout => .tuple "RequestTimeout" []
  | protocolVersion => .tuple "ProtocolVersion" []

def ConfigError.outline : ConfigError → Text.Outline
  | missing option => .tuple "Missing" [option.outline]
  | wrongType option expected =>
    .record "WrongType" [("option", option.outline), ("expected", .text expected.name)]
  | unknownProfile name => .tuple "UnknownProfile" [.text name]
  | unknownConsistencyName name => .tuple "UnknownConsistencyName" [.text name]
  | unknownConsistencyCode code => .tuple "UnknownConsistencyCode" [.number code.toNat]

def FrameError.outline : FrameError → Text.Outline
  | tooLong field length => .record "TooLong" [("kind", .text field.name), ("len", .number length)]
  | unsupported feature version =>
    .tuple "Unsupported" [.text feature.wireName, .atom version.render]

/-- The outline of a failure: its kind, with the wording or the outline of its cause. -/
def ClientError.outline : ClientError → Text.Outline
  | invalidArgument fault => .tuple "InvalidArgument" [.text fault.message]
  | illegalState fault => .tuple "IllegalState" [.text fault.message]
  | protocolViolation fault => .tuple "ProtocolViolation" [.text fault.message]
  | token error => .tuple "Token" [.text error.message]
  | codec error => .tuple "Codec" [.text error.message]
  | config error => .tuple "Config" [error.outline]
  | frame error => .tuple "Frame" [error.outline]

end CqlWire
