import CqlWire.Proofs.Field.Size
import CqlWire.Proofs.Frame.Layout

/-!
# The sizes of frames

A frame that can be written takes nine bytes for its header, what the custom payload takes, if it is
written, and what its request takes (`Frame.hasSize_encode`).  The size of a request is the sum of
the sizes of its fields, of which only those count that are written.
-/

namespace CqlWire

theorem RequestFlags.hasSize_encode (version : ProtocolVersion) (flags : RequestFlags) :
    HasSize (encode version flags) version.flagsSize := by
  unfold encode ProtocolVersion.flagsSize
  split_ifs
  · exact Field.hasSize_number 4 _
  · exact HasSize.error _ _
  · exact Field.hasSize_number 1 _

/-- The size of the serial consistency. -/
def FieldSize.serialConsistency (code : UInt16) : Nat :=
  onlyIf (writesSerialConsistency code) 2

/-- The size of the timestamp. -/
def FieldSize.timestamp (timestamp : Timestamp) : Nat :=
  onlyIf (writesTimestamp timestamp) 8

theorem Field.hasSize_serialConsistency (code : UInt16) :
    HasSize (serialConsistency code) (FieldSize.serialConsistency code) :=
  hasSize_onlyIf _ (hasSize_number 2 _)

theorem Field.hasSize_timestamp (time : Timestamp) :
    HasSize (timestamp time) (FieldSize.timestamp time) :=
  hasSize_onlyIf _ (hasSize_number 8 _)

/-! ### Values -/

/-- The size of the block of values; there is none without values. -/
def BoundValues.size : BoundValues → Nat
  | positional (value :: values) => FieldSize.positionalValues (value :: values)
  | named (value :: values) => FieldSize.namedValues (value :: values)
  | _ => 0

theorem BoundValues.hasSize_encode (version : ProtocolVersion) (values : BoundValues) :
    HasSize (values.encode version) values.size := by
  rcases values with _ | (_ | ⟨value, values⟩) | (_ | ⟨value, values⟩)
  · exact HasSize.ok []
  · exact HasSize.ok []
  · exact Field.hasSize_positionalValues version (value :: values)
  · exact HasSize.ok []
  · exact Field.hasSize_namedValues version (value :: values)

/-! ### Requests -/

/-- The size of the options of query and execute requests. -/
def QueryParameters.size (version : ProtocolVersion) (options : QueryParameters) : Nat :=
  2 + (version.flagsSize + (options.values.size + (FieldSize.onlyIf options.isPaged 4 +
    (FieldSize.optional FieldSize.bytes options.pagingState +
      (FieldSize.serialConsistency options.serialConsistency +
        (FieldSize.timestamp options.timestamp +
          FieldSize.optional FieldSize.string options.keyspace))))))

theorem QueryParameters.hasSize_encode (version : ProtocolVersion) (options : QueryParameters) :
    HasSize (options.encode version) (options.size version) :=
  (Field.hasSize_number 2 _).concat_cons <|
  (RequestFlags.hasSize_encode version options.flags).concat_cons <|
  (options.values.hasSize_encode version).concat_cons <|
  (Field.hasSize_onlyIf _ (Field.hasSize_number 4 _)).concat_cons <|
  (Field.hasSize_optional Field.hasSize_bytes options.pagingState).concat_cons <|
  (Field.hasSize_serialConsistency options.serialConsistency).concat_cons <|
  (Field.hasSize_timestamp options.timestamp).concat_cons <|
  (Field.hasSize_optional Field.hasSize_string options.keyspace).concat_singleton

/-- The size of a child of a batch without its values. -/
def BatchEntry.size : BatchEntry → Nat
  | query text => 1 + FieldSize.longString text
  | prepared id => 1 + FieldSize.shortBytes id

theorem BatchEntry.hasSize_encode (entry : BatchEntry) : HasSize entry.encode entry.size := by
  cases entry with
  | query text =>
    exact (Field.hasSize_number 1 0).concat_cons (Field.hasSize_longString text).concat_singleton
  | prepared id =>
    exact (Field.hasSize_number 1 1).concat_cons (Field.hasSize_shortBytes id).concat_singleton

/-- The size of the children of a batch, each with its values. -/
def BatchRequest.childrenSize (batch : BatchRequest) : Nat :=
  FieldSize.total ((batch.entries.zip batch.values).map fun child =>
    child.1.size + FieldSize.positionalValues child.2)

/-- The size of a request. -/
def Request.size (version : ProtocolVersion) : Request → Nat
  | query request => FieldSize.longString request.query + request.options.size version
  | execute request =>
    FieldSize.shortBytes request.id +
      (FieldSize.onlyIf version.sendsResultMetadataId
        (FieldSize.shortBytes (request.resultMetadataId.getD [])) +
      request.options.size version)
  | batch request =>
    1 + (2 + (request.childrenSize + (2 + (version.flagsSize +
      (FieldSize.serialConsistency request.serialConsistency +
        (FieldSize.timestamp request.timestamp +
          FieldSize.optional FieldSize.string request.keyspace))))))

theorem BatchRequest.hasSize_encode (version : ProtocolVersion) (batch : BatchRequest) :
    HasSize (batch.encode version) (Request.size version (.batch batch)) := by
  refine (Field.hasSize_number 1 _).concat_cons <|
    (Field.hasSize_length .batch _).concat_cons <|
    HasSize.concat_cons ?_ <|
    (Field.hasSize_number 2 _).concat_cons <|
    (RequestFlags.hasSize_encode version batch.flags).concat_cons <|
    (Field.hasSize_serialConsistency batch.serialConsistency).concat_cons <|
    (Field.hasSize_timestamp batch.timestamp).concat_cons <|
    (Field.hasSize_optional Field.hasSize_string batch.keyspace).concat_singleton
  rw [Encoded.concat_flatMap]
  exact HasSize.concat_map (Field.hasSize_pair BatchEntry.hasSize_encode
    (Field.hasSize_positionalValues version)) _

theorem Request.hasSize_encode (version : ProtocolVersion) (request : Request) :
    HasSize (request.encode version) (request.size version) := by
  cases request with
  | query request =>
    exact (Field.hasSize_longString _).concat_cons
      (request.options.hasSize_encode version).concat_singleton
  | execute request =>
    exact (Field.hasSize_shortBytes _).concat_cons <|
      (Field.hasSize_onlyIf _ (Field.hasSize_shortBytes _)).concat_cons
        (request.options.hasSize_encode version).concat_singleton
  | batch request => exact request.hasSize_encode version

/-! ### Frames -/

namespace Frame

variable (features : FeatureTable) (frame : Frame)

/-- The size of the custom payload, if it is written. -/
def payloadSize : Nat :=
  FieldSize.onlyIf (frame.writesPayload features) (FieldSize.bytesMap frame.customPayload)

theorem hasSize_encodeHeader (bodyLength : Nat) :
    HasSize (frame.encodeHeader features bodyLength) frame.version.headerSize :=
  (Field.hasSize_number 1 _).concat_cons <|
  (Field.hasSize_number 1 _).concat_cons <|
  (Field.hasSize_number 2 _).concat_cons <|
  (Field.hasSize_number 1 _).concat_cons (Field.hasSize_length .frameBody _).concat_singleton

theorem hasSize_encodeBody :
    HasSize (frame.encodeBody features)
      (frame.payloadSize features + frame.request.size frame.version) :=
  (Field.hasSize_onlyIf _ (Field.hasSize_bytesMap _)).concat_cons
    (frame.request.hasSize_encode frame.version).concat_singleton

/-- **A frame takes its header, its custom payload, if it is written, and its request.** -/
theorem hasSize_encode :
    HasSize (frame.encode features)
      (frame.version.headerSize +
        (frame.payloadSize features + frame.request.size frame.version)) := by
  intro bytes h
  obtain ⟨body, header, hbody, hheader, rfl⟩ := encode_eq_ok_iff.mp h
  rw [List.length_append, frame.hasSize_encodeHeader features _ hheader,
    frame.hasSize_encodeBody features hbody]

end Frame

end CqlWire
