import CqlWire.Proofs.Field.Failure
import CqlWire.Proofs.Frame.Layout
import CqlWire.Proofs.Request.Flags

/-!
# Why frames can not be written

Besides lengths that do not fit, there are two reasons: a value that was left unset, where the
version has no place for that, and a keyspace, where the flags of the version have no bit for it
(`Frame.failsOnly_encode`).  The first of the two always stops the frame
(`Frame.exists_encode_eq_error`).
-/

namespace CqlWire

/-! ### What a request sends -/

/-- The values in a block of values. -/
def BoundValues.toList : BoundValues → List EncodedValue
  | empty => []
  | positional values => values
  | named values => values.map (·.2)

namespace Request

/-- All values that are written. -/
def sentValues : Request → List EncodedValue
  | query request => request.options.values.toList
  | execute request => request.options.values.toList
  | batch request => (request.entries.zip request.values).flatMap (·.2)

/-- The keyspace that a request names. -/
def keyspace? : Request → Option String
  | query request => request.options.keyspace
  | execute request => request.options.keyspace
  | batch request => request.keyspace

/-- Why a request can not be written. -/
def Refuses (version : ProtocolVersion) (request : Request) (error : FrameError) : Prop :=
  Field.RefusesValues version request.sentValues error ∨
    (error = .unsupported .requestKeyspace version ∧ version.hasWideFlags = false ∧
      request.keyspace?.isSome)

theorem refuses_of_isTooLong (version : ProtocolVersion) (request : Request)
    (error : FrameError) (h : error.IsTooLong) : request.Refuses version error :=
  Or.inl (Or.inl h)

end Request

/-! ### Reasons -/

theorem RequestFlags.failsOnly_encode (version : ProtocolVersion) (flags : RequestFlags) :
    FailsOnly (fun error => error = .unsupported .requestKeyspace version ∧
      version.hasWideFlags = false ∧ flags.has .keyspace) (encode version flags) := by
  unfold encode
  split_ifs with hwide hkeyspace
  · exact FailsOnly.ok _
  · rintro error ⟨⟩
    exact ⟨rfl, Bool.eq_false_iff.mpr hwide, hkeyspace⟩
  · exact FailsOnly.ok _

theorem BoundValues.failsOnly_encode (version : ProtocolVersion) (values : BoundValues) :
    FailsOnly (Field.RefusesValues version values.toList) (values.encode version) := by
  rcases values with _ | (_ | ⟨value, values⟩) | (_ | ⟨value, values⟩)
  · exact FailsOnly.ok []
  · exact FailsOnly.ok []
  · exact Field.failsOnly_positionalValues version (value :: values)
  · exact FailsOnly.ok []
  · exact Field.failsOnly_namedValues version (value :: values)

theorem Field.failsOnly_serialConsistency {P : FrameError → Prop} (code : UInt16) :
    FailsOnly P (serialConsistency code) :=
  failsOnly_onlyIf _ (failsOnly_number 2 _)

theorem Field.failsOnly_timestamp {P : FrameError → Prop} (time : Timestamp) :
    FailsOnly P (timestamp time) :=
  failsOnly_onlyIf _ (failsOnly_number 8 _)

theorem QueryParameters.failsOnly_encode (version : ProtocolVersion) (options : QueryParameters) :
    FailsOnly
      (fun error => Field.RefusesValues version options.values.toList error ∨
        (error = .unsupported .requestKeyspace version ∧ version.hasWideFlags = false ∧
          options.keyspace.isSome))
      (options.encode version) := by
  have hflags := RequestFlags.failsOnly_encode version options.flags
  rw [has_flags] at hflags
  refine FailsOnly.concat ?_
  simp only [List.forall_mem_cons]
  refine ⟨Field.failsOnly_number 2 _, hflags.imp fun _ => Or.inr,
    (options.values.failsOnly_encode version).imp fun _ => Or.inl,
    Field.failsOnly_onlyIf _ (Field.failsOnly_number 4 _),
    Field.failsOnly_optional (fun state => ?_) _, Field.failsOnly_serialConsistency _,
    Field.failsOnly_timestamp _, Field.failsOnly_optional (fun keyspace => ?_) _, nofun⟩
  · exact (Field.failsOnly_bytes state).imp fun _ h => Or.inl (Or.inl h)
  · exact (Field.failsOnly_string keyspace).imp fun _ h => Or.inl (Or.inl h)

theorem BatchEntry.failsOnly_encode (entry : BatchEntry) :
    FailsOnly FrameError.IsTooLong entry.encode := by
  cases entry with
  | query text =>
    exact (Field.failsOnly_number 1 0).concat_cons
      (Field.failsOnly_longString text).concat_singleton
  | prepared id =>
    exact (Field.failsOnly_number 1 1).concat_cons (Field.failsOnly_shortBytes id).concat_singleton

theorem BatchRequest.failsOnly_encode (version : ProtocolVersion) (batch : BatchRequest) :
    FailsOnly (Request.Refuses version (.batch batch)) (batch.encode version) := by
  have htooLong := Request.refuses_of_isTooLong version (.batch batch)
  have hflags := RequestFlags.failsOnly_encode version batch.flags
  rw [has_flags] at hflags
  refine FailsOnly.concat ?_
  simp only [List.forall_mem_cons]
  refine ⟨Field.failsOnly_number 1 _, (Field.failsOnly_length .batch _).imp htooLong, ?_,
    Field.failsOnly_number 2 _, hflags.imp fun _ => Or.inr, Field.failsOnly_serialConsistency _,
    Field.failsOnly_timestamp _, Field.failsOnly_optional (fun keyspace => ?_) _, nofun⟩
  · refine FailsOnly.concat ?_
    intro field hfield
    obtain ⟨⟨entry, values⟩, hchild, hfield⟩ := List.mem_flatMap.mp hfield
    rcases List.mem_cons.mp hfield with rfl | hfield
    · exact entry.failsOnly_encode.imp htooLong
    · rw [List.mem_singleton.mp hfield]
      -- A value of one child is a value of the batch.
      refine (Field.failsOnly_positionalValues version values).imp fun error h => Or.inl ?_
      exact h.imp_right fun ⟨herror, hwrites, hmem⟩ =>
        ⟨herror, hwrites, List.mem_flatMap.mpr ⟨_, hchild, hmem⟩⟩
  · exact (Field.failsOnly_string keyspace).imp htooLong

theorem Request.failsOnly_encode (version : ProtocolVersion) (request : Request) :
    FailsOnly (request.Refuses version) (request.encode version) := by
  have htooLong := refuses_of_isTooLong version request
  cases request with
  | query request =>
    exact ((Field.failsOnly_longString _).imp htooLong).concat_cons
      (request.options.failsOnly_encode version).concat_singleton
  | execute request =>
    exact ((Field.failsOnly_shortBytes _).imp htooLong).concat_cons <|
      ((Field.failsOnly_onlyIf _ (Field.failsOnly_shortBytes _)).imp htooLong).concat_cons
        (request.options.failsOnly_encode version).concat_singleton
  | batch request => exact request.failsOnly_encode version

namespace Frame

variable {features : FeatureTable} {frame : Frame}

/-- **A frame can not be written because of its request, or because something is too long.** -/
theorem failsOnly_encode :
    FailsOnly (frame.request.Refuses frame.version) (frame.encode features) := by
  have htooLong := Request.refuses_of_isTooLong frame.version frame.request
  have hbody : FailsOnly (frame.request.Refuses frame.version) (frame.encodeBody features) :=
    ((Field.failsOnly_onlyIf _ (Field.failsOnly_bytesMap _)).imp htooLong).concat_cons
      (frame.request.failsOnly_encode frame.version).concat_singleton
  have hheader (n : Nat) : FailsOnly (frame.request.Refuses frame.version)
      (frame.encodeHeader features n) :=
    (Field.failsOnly_number 1 _).concat_cons <| (Field.failsOnly_number 1 _).concat_cons <|
    (Field.failsOnly_number 2 _).concat_cons <| (Field.failsOnly_number 1 _).concat_cons
      ((Field.failsOnly_length .frameBody n).imp htooLong).concat_singleton
  intro error herror
  rcases bind_eq_error_iff.mp herror with h | ⟨body, -, h⟩
  · exact hbody h
  · rcases bind_eq_error_iff.mp h with h | ⟨header, -, h⟩
    · exact hheader _ h
    · exact absurd h nofun

end Frame

/-! ### Unset values -/

/-- The block of values can not be written where one of them is unset and the version has no place
for that. -/
theorem BoundValues.exists_encode_eq_error {version : ProtocolVersion}
    (h : version.writesUnset = false) {values : BoundValues} (hmem : .unset ∈ values.toList) :
    ∃ error, values.encode version = .error error := by
  rcases values with _ | (_ | ⟨value, values⟩) | (_ | ⟨value, values⟩)
  · exact absurd hmem List.not_mem_nil
  · exact absurd hmem List.not_mem_nil
  · exact Field.exists_positionalValues_eq_error h hmem
  · exact absurd hmem List.not_mem_nil
  · exact Field.exists_namedValues_eq_error h hmem

theorem QueryParameters.exists_encode_eq_error {version : ProtocolVersion}
    (h : version.writesUnset = false) {options : QueryParameters}
    (hmem : .unset ∈ options.values.toList) : ∃ error, options.encode version = .error error := by
  obtain ⟨error, herror⟩ := BoundValues.exists_encode_eq_error h hmem
  exact Encoded.exists_concat_eq_error (by simp) herror

theorem BatchRequest.exists_encode_eq_error {version : ProtocolVersion}
    (h : version.writesUnset = false) {batch : BatchRequest}
    (hmem : .unset ∈ Request.sentValues (.batch batch)) :
    ∃ error, batch.encode version = .error error := by
  obtain ⟨⟨entry, values⟩, hchild, hmem⟩ := List.mem_flatMap.mp hmem
  obtain ⟨error, herror⟩ := Field.exists_positionalValues_eq_error h hmem
  have hfield : Field.positionalValues version values ∈
      (batch.entries.zip batch.values).flatMap fun child =>
        [child.1.encode, Field.positionalValues version child.2] :=
    List.mem_flatMap.mpr ⟨_, hchild, List.mem_cons_of_mem _ List.mem_cons_self⟩
  obtain ⟨error', herror'⟩ := Encoded.exists_concat_eq_error hfield herror
  exact Encoded.exists_concat_eq_error (by simp) herror'

theorem Request.exists_encode_eq_error {version : ProtocolVersion}
    (h : version.writesUnset = false) {request : Request} (hmem : .unset ∈ request.sentValues) :
    ∃ error, request.encode version = .error error := by
  cases request with
  | query request =>
    obtain ⟨error, herror⟩ := QueryParameters.exists_encode_eq_error h hmem
    exact Encoded.exists_concat_eq_error (by simp) herror
  | execute request =>
    obtain ⟨error, herror⟩ := QueryParameters.exists_encode_eq_error h hmem
    exact Encoded.exists_concat_eq_error (by simp) herror
  | batch request => exact BatchRequest.exists_encode_eq_error h hmem

/-- A frame with an unset value can not be written where the version has no place for it. -/
theorem Frame.exists_encode_eq_error {features : FeatureTable} {frame : Frame}
    (h : frame.version.writesUnset = false) (hmem : .unset ∈ frame.request.sentValues) :
    ∃ error, frame.encode features = .error error := by
  obtain ⟨error, herror⟩ := Request.exists_encode_eq_error h hmem
  obtain ⟨error', herror'⟩ : ∃ error, frame.encodeBody features = .error error :=
    Encoded.exists_concat_eq_error (by simp) herror
  exact ⟨error', bind_eq_error_iff.mpr (Or.inl herror')⟩

end CqlWire
