import CqlWire.Proofs.Field.Steps
import CqlWire.Proofs.Frame.Failure
import CqlWire.Proofs.Frame.Size

/-!
# The steps of frames

What follows the header of a frame is written in the steps of the custom payload and of the request
(`Frame.writtenBy_encodeBody`).  The header is in front of them, but the length in it is looked at
last.  So a frame can be written exactly if all these steps pass and the whole of them is not too
long (`Frame.encode_eq_ok_iff_passes`), and otherwise the first of them that does not pass decides
about the error (`Frame.failsBy_encode`).
-/

namespace CqlWire

/-! ### Flags -/

/-- A keyspace needs a place among the flags. -/
def WriteStep.keyspaceGate (version : ProtocolVersion) (keyspace : Option String) : WriteStep :=
  gate .requestKeyspace version (version.hasWideFlags || keyspace.isNone)

/-- The steps of flags that announce a keyspace if there is one. -/
def RequestFlags.steps (version : ProtocolVersion) (keyspace : Option String)
    (flags : RequestFlags) : List WriteStep :=
  [.keyspaceGate version keyspace, .raw (Bytes.bigEndian version.flagsSize flags.toNat)]

theorem RequestFlags.writtenBy_encode (version : ProtocolVersion) {flags : RequestFlags}
    {keyspace : Option String} (h : flags.has .keyspace = keyspace.isSome) :
    WrittenBy (flags.encode version) (flags.steps version keyspace) := by
  have hgate : (WriteStep.keyspaceGate version keyspace).write
      = if version.hasWideFlags || keyspace.isNone then .ok []
        else .error (.unsupported .requestKeyspace version) := rfl
  have hraw (b : Bytes) : (WriteStep.raw b).write = .ok b := rfl
  rw [WrittenBy, steps, List.map_cons, List.map_singleton, hgate, hraw, Encoded.concat_cons,
    Encoded.concat_singleton, encode, ProtocolVersion.flagsSize, h]
  cases version.hasWideFlags with
  | true => rfl
  | false =>
    cases keyspace with
    | none => rfl
    | some keyspace => rfl

/-! ### Requests -/

namespace WriteStep

/-- The steps of the serial consistency. -/
def serialConsistency (code : UInt16) : List WriteStep :=
  onlyIf (writesSerialConsistency code) [raw (Bytes.bigEndian 2 code.toNat)]

/-- The steps of the timestamp. -/
def timestamp (time : Timestamp) : List WriteStep :=
  onlyIf (writesTimestamp time) [raw (Bytes.bigEndian 8 time.toUInt64.toNat)]

end WriteStep

/-- The steps of the block of values. -/
def BoundValues.steps (version : ProtocolVersion) : BoundValues → List WriteStep
  | positional (value :: values) => WriteStep.positionalValues version (value :: values)
  | named (value :: values) => WriteStep.namedValues version (value :: values)
  | _ => []

theorem BoundValues.writtenBy_encode (version : ProtocolVersion) (values : BoundValues) :
    WrittenBy (values.encode version) (values.steps version) := by
  rcases values with _ | (_ | ⟨value, values⟩) | (_ | ⟨value, values⟩)
  · exact WrittenBy.nothing
  · exact WrittenBy.nothing
  · exact Field.writtenBy_positionalValues version (value :: values)
  · exact WrittenBy.nothing
  · exact Field.writtenBy_namedValues version (value :: values)

/-- The steps of the options of query and execute requests. -/
def QueryParameters.steps (version : ProtocolVersion) (options : QueryParameters) :
    List WriteStep :=
  [.raw (Bytes.bigEndian 2 options.consistency.toNat)] ++
  (options.flags.steps version options.keyspace ++
  (options.values.steps version ++
  (WriteStep.onlyIf options.isPaged [.raw (Bytes.bigEndian 4 options.pageSize.toUInt32.toNat)] ++
  (WriteStep.optional (WriteStep.delimited .bytes) options.pagingState ++
  (WriteStep.serialConsistency options.serialConsistency ++
  (WriteStep.timestamp options.timestamp ++
  WriteStep.optional (WriteStep.text .string) options.keyspace))))))

theorem QueryParameters.writtenBy_encode (version : ProtocolVersion) (options : QueryParameters) :
    WrittenBy (options.encode version) (options.steps version) :=
  (Field.writtenBy_number 2 _).concat_cons <|
  (RequestFlags.writtenBy_encode version (options.has_flags .keyspace)).concat_cons <|
  (options.values.writtenBy_encode version).concat_cons <|
  (Field.writtenBy_onlyIf _ (Field.writtenBy_number 4 _)).concat_cons <|
  (Field.writtenBy_optional Field.writtenBy_bytes options.pagingState).concat_cons <|
  (Field.writtenBy_onlyIf _ (Field.writtenBy_number 2 _)).concat_cons <|
  (Field.writtenBy_onlyIf _ (Field.writtenBy_number 8 _)).concat_cons <|
  (Field.writtenBy_optional Field.writtenBy_string options.keyspace).concat_singleton

/-- The steps of a child of a batch without its values. -/
def BatchEntry.steps : BatchEntry → List WriteStep
  | query text => .raw (Bytes.bigEndian 1 0) :: WriteStep.text .longString text
  | prepared id => .raw (Bytes.bigEndian 1 1) :: WriteStep.delimited .shortBytes id

theorem BatchEntry.writtenBy_encode (entry : BatchEntry) : WrittenBy entry.encode entry.steps := by
  cases entry with
  | query text =>
    exact (Field.writtenBy_number 1 0).concat_cons
      (Field.writtenBy_longString text).concat_singleton
  | prepared id =>
    exact (Field.writtenBy_number 1 1).concat_cons (Field.writtenBy_shortBytes id).concat_singleton

namespace BatchRequest

/-- The steps of what stands in front of the children. -/
def headSteps (batch : BatchRequest) : List WriteStep :=
  [.raw (Bytes.bigEndian 1 batch.kind.toNat), .length .batch batch.entries.length]

/-- The steps of the children that have values, each with its values. -/
def childSteps (version : ProtocolVersion) (batch : BatchRequest) : List WriteStep :=
  (batch.entries.zip batch.values).flatMap fun child =>
    child.1.steps ++ WriteStep.positionalValues version child.2

/-- The steps of what stands behind the children. -/
def optionSteps (version : ProtocolVersion) (batch : BatchRequest) : List WriteStep :=
  [.raw (Bytes.bigEndian 2 batch.consistency.toNat)] ++
  (batch.flags.steps version batch.keyspace ++
  (WriteStep.serialConsistency batch.serialConsistency ++
  (WriteStep.timestamp batch.timestamp ++
  WriteStep.optional (WriteStep.text .string) batch.keyspace)))

theorem writtenBy_encode (version : ProtocolVersion) (batch : BatchRequest) :
    WrittenBy (batch.encode version)
      (batch.headSteps ++ (batch.childSteps version ++ batch.optionSteps version)) := by
  refine (Field.writtenBy_number 1 _).concat_cons <|
    (Field.writtenBy_length .batch _).concat_cons <|
    WrittenBy.concat_cons ?_ <|
    (Field.writtenBy_number 2 _).concat_cons <|
    (RequestFlags.writtenBy_encode version (batch.has_flags .keyspace)).concat_cons <|
    (Field.writtenBy_onlyIf _ (Field.writtenBy_number 2 _)).concat_cons <|
    (Field.writtenBy_onlyIf _ (Field.writtenBy_number 8 _)).concat_cons <|
    (Field.writtenBy_optional Field.writtenBy_string batch.keyspace).concat_singleton
  rw [Encoded.concat_flatMap]
  exact .concat_map (Field.writtenBy_pair BatchEntry.writtenBy_encode
    (Field.writtenBy_positionalValues version)) _

end BatchRequest

/-- The steps of a request. -/
def Request.steps (version : ProtocolVersion) : Request → List WriteStep
  | query request => WriteStep.text .longString request.query ++ request.options.steps version
  | execute request =>
    WriteStep.delimited .shortBytes request.id ++
      (WriteStep.onlyIf version.sendsResultMetadataId
        (WriteStep.delimited .shortBytes (request.resultMetadataId.getD [])) ++
      request.options.steps version)
  | batch request =>
    request.headSteps ++ (request.childSteps version ++ request.optionSteps version)

theorem Request.writtenBy_encode (version : ProtocolVersion) (request : Request) :
    WrittenBy (request.encode version) (request.steps version) := by
  cases request with
  | query request =>
    exact (Field.writtenBy_longString _).concat_cons
      (request.options.writtenBy_encode version).concat_singleton
  | execute request =>
    exact (Field.writtenBy_shortBytes _).concat_cons <|
      (Field.writtenBy_onlyIf _ (Field.writtenBy_shortBytes _)).concat_cons
        (request.options.writtenBy_encode version).concat_singleton
  | batch request => exact request.writtenBy_encode version

/-! ### Frames -/

namespace Frame

variable (features : FeatureTable) (frame : Frame)

/-- The number of bytes behind the header. -/
def bodySize : Nat :=
  frame.payloadSize features + frame.request.size frame.version

/-- The steps of the custom payload, if it is written. -/
def payloadSteps : List WriteStep :=
  WriteStep.onlyIf (frame.writesPayload features) (WriteStep.bytesMap frame.customPayload)

/-- The steps of what follows the header. -/
def bodySteps : List WriteStep :=
  frame.payloadSteps features ++ frame.request.steps frame.version

/-- The steps of the header. -/
def headerSteps : List WriteStep := [
  .raw (Bytes.bigEndian 1 frame.version.number),
  .raw (Bytes.bigEndian 1 (frame.headerFlags features)),
  .raw (Bytes.bigEndian 2 frame.stream.toUInt16.toNat),
  .raw (Bytes.bigEndian 1 frame.request.opcode.toNat),
  .length .frameBody (frame.bodySize features)]

/-- The steps in the order in which they are looked at: the length of the body comes last. -/
def checkedSteps : List WriteStep :=
  frame.bodySteps features ++ [.length .frameBody (frame.bodySize features)]

theorem writtenBy_payload :
    WrittenBy (Field.onlyIf (frame.writesPayload features) (Field.bytesMap frame.customPayload))
      (frame.payloadSteps features) :=
  Field.writtenBy_onlyIf _ (Field.writtenBy_bytesMap _)

theorem writtenBy_encodeBody :
    WrittenBy (frame.encodeBody features) (frame.bodySteps features) :=
  (frame.writtenBy_payload features).concat_cons
    (frame.request.writtenBy_encode frame.version).concat_singleton

theorem writtenBy_encodeHeader :
    WrittenBy (frame.encodeHeader features (frame.bodySize features))
      (frame.headerSteps features) :=
  (Field.writtenBy_number 1 _).concat_cons <|
  (Field.writtenBy_number 1 _).concat_cons <|
  (Field.writtenBy_number 2 _).concat_cons <|
  (Field.writtenBy_number 1 _).concat_cons (Field.writtenBy_length .frameBody _).concat_singleton

/-- Of the steps of the header, only the length can fail to pass. -/
theorem forall_headerSteps_passes_iff :
    (∀ step ∈ frame.headerSteps features, step.Passes) ↔
      (WriteStep.length .frameBody (frame.bodySize features)).Passes := by
  simp [headerSteps, WriteStep.Passes]

variable {features frame}

/-- A frame can be written exactly if all its steps pass; its bytes are then those of the steps,
header first. -/
theorem encode_eq_ok_iff_passes {bytes : Bytes} :
    frame.encode features = .ok bytes ↔
      (∀ step ∈ frame.checkedSteps features, step.Passes) ∧
        bytes = (frame.headerSteps features ++ frame.bodySteps features).flatMap (·.bytes) := by
  have hbody {body : Bytes} := (frame.writtenBy_encodeBody features).eq_ok_iff (b := body)
  have hheader {head : Bytes} := (frame.writtenBy_encodeHeader features).eq_ok_iff (b := head)
  rw [encode_eq_ok_iff, checkedSteps, List.forall_mem_append, List.forall_mem_singleton,
    ← forall_headerSteps_passes_iff, List.flatMap_append]
  constructor
  · rintro ⟨body, header, hbodyOk, hheaderOk, rfl⟩
    have hsize : body.length = frame.bodySize features := frame.hasSize_encodeBody features hbodyOk
    rw [hsize] at hheaderOk
    obtain ⟨hpasses, rfl⟩ := hbody.mp hbodyOk
    obtain ⟨hpasses', rfl⟩ := hheader.mp hheaderOk
    exact ⟨⟨hpasses, hpasses'⟩, rfl⟩
  · rintro ⟨⟨hpasses, hpasses'⟩, rfl⟩
    have hbodyOk := hbody.mpr ⟨hpasses, rfl⟩
    have hsize := frame.hasSize_encodeBody features hbodyOk
    refine ⟨_, _, hbodyOk, ?_, rfl⟩
    rw [hsize]
    exact hheader.mpr ⟨hpasses', rfl⟩

/-- The header fails by its length alone. -/
theorem failsBy_encodeHeader :
    FailsBy (frame.encodeHeader features (frame.bodySize features))
      [(WriteStep.length .frameBody (frame.bodySize features)).Refuses] := by
  have hsteps := (frame.writtenBy_encodeHeader features).failsBy
  intro error
  rw [hsteps]
  simp [headerSteps, isFirst_cons_iff, not_isFirst_nil, WriteStep.Refuses]

/-- **A frame that can not be written fails with the error of the first step that does not pass.**
The length of the body is looked at last. -/
theorem failsBy_encode :
    FailsBy (frame.encode features)
      ((frame.checkedSteps features).map WriteStep.Refuses) := by
  rw [checkedSteps, List.map_append, List.map_singleton, encode]
  refine (frame.writtenBy_encodeBody features).failsBy.bind fun body hbody => ?_
  have hsize : body.length = frame.bodySize features := frame.hasSize_encodeBody features hbody
  rw [hsize, ← List.append_nil [(WriteStep.length _ _).Refuses]]
  exact failsBy_encodeHeader.bind fun _ _ => FailsBy.ok _

end Frame

end CqlWire
