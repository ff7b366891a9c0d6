import CqlWire.Request.Message

/-!
# Frames

A request as it is written to a connection: a header of nine bytes, then the custom payload where
the protocol version has one, then the body of the request.  The header tells the version, two
flags, the stream, the code of the request and the length of what follows.
-/

namespace CqlWire

/-- A request ready to be written to a connection. -/
structure Frame where
  version : ProtocolVersion
  /-- Ties the answer to the request. -/
  stream : Int16 := 0
  tracing : Bool := false
  customPayload : CustomPayload := ∅
  request : Request

namespace Frame

/-- Whether the custom payload is written: there is one, and the version supports it. -/
def writesPayload (features : FeatureTable) (frame : Frame) : Bool :=
  !frame.customPayload.isEmpty && features frame.version .customPayload

/-- The flags of the header: tracing is asked for, and a custom payload is written. -/
def headerFlags (features : FeatureTable) (frame : Frame) : Nat :=
  (if frame.tracing then 2 else 0) + (if frame.writesPayload features then 4 else 0)

/-- What follows the header. -/
def encodeBody (features : FeatureTable) (frame : Frame) : Encoded :=
  .concat [
    Field.onlyIf (frame.writesPayload features) (Field.bytesMap frame.customPayload),
    frame.request.encode frame.version]

/-- The header of a frame whose body has a given length. -/
def encodeHeader (features : FeatureTable) (frame : Frame) (bodyLength : Nat) : Encoded :=
  .concat [
    Field.number 1 frame.version.number,
    Field.number 1 (frame.headerFlags features),
    Field.number 2 frame.stream.toUInt16.toNat,
    Field.number 1 frame.request.opcode.toNat,
    Field.length .frameBody bodyLength]

/-- Header and body.  A body that can not be written is reported before its length is looked at. -/
def encode (features : FeatureTable) (frame : Frame) : Encoded := do
  let body ← frame.encodeBody features
  return (← frame.encodeHeader features body.length) ++ body

end Frame

end CqlWire
