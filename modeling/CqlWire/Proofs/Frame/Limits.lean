import CqlWire.Proofs.Frame.Steps
import CqlWire.Proofs.Request.Unambiguous

/-!
# The limits of frames

The conditions under which a frame can be written, gathered by what they are about and not by where
it is written (`Request.Fits`, `Frame.IsWritable`).  They hold exactly if every step of the frame
passes, so `Frame.encode_iff_isWritable` tells when a frame can be written, with which error it
fails otherwise, and that no length in it has been cut off.
-/

namespace CqlWire

/-- The greatest length that can be written. -/
def FieldKind.maxLength : FieldKind → Nat
  | longString | bytes => 2 ^ 31 - 1
  | frameBody => 2 ^ 32 - 1
  | string | shortBytes | bytesMap | batch | values => 65535

theorem FieldKind.lt_lengthLimit_iff {kind : FieldKind} {n : Nat} :
    n < kind.lengthLimit ↔ n ≤ kind.maxLength := by
  cases kind with
  | string | shortBytes | bytesMap | batch | values => exact Nat.lt_succ_iff
  | longString | bytes | frameBody => exact Nat.lt_succ_iff

/-- An encoded value can be written: it is not too long, and not unset where that is unknown. -/
def EncodedValue.Fits (version : ProtocolVersion) : EncodedValue → Prop
  | .bytes content => content.length ≤ 2 ^ 31 - 1
  | .null => True
  | .unset => version ≠ .v3

/-! ### What a request is made of -/

/-- The names of named values. -/
def BoundValues.names : BoundValues → List String
  | named values => values.map (·.1)
  | _ => []

/-- The text of a child, if it is one. -/
def BatchEntry.text? : BatchEntry → Option String
  | query text => some text
  | prepared _ => none

/-- The id of a child, if it is prepared. -/
def BatchEntry.id? : BatchEntry → Option Bytes
  | query _ => none
  | prepared id => some id

namespace Request

/-- The query texts of a request. -/
def texts : Request → List String
  | query request => [request.query]
  | execute _ => []
  | batch request => request.entries.filterMap BatchEntry.text?

/-- The ids of the prepared statements of a request. -/
def ids : Request → List Bytes
  | query _ => []
  | execute request => [request.id]
  | batch request => request.entries.filterMap BatchEntry.id?

/-- The id of the result metadata that an execute request knows. -/
def resultMetadataId? : Request → Option Bytes
  | execute request => request.resultMetadataId
  | query _ | batch _ => none

/-- The number of children of a batch. -/
def childCount : Request → Nat
  | batch request => request.entries.length
  | query _ | execute _ => 0

/-- The lists of values of a request. -/
def valueLists : Request → List (List EncodedValue)
  | query request => [request.options.values.toList]
  | execute request => [request.options.values.toList]
  | batch request => request.values

/-- The names of the values of a request. -/
def valueNames : Request → List String
  | query request => request.options.values.names
  | execute request => request.options.values.names
  | batch _ => []

/-- The paging state of a request. -/
def pagingState? : Request → Option Bytes
  | query request => request.options.pagingState
  | execute request => request.options.pagingState
  | batch _ => none

/-- Everything in the request has a place on the wire in this version. -/
structure Fits (version : ProtocolVersion) (request : Request) : Prop where
  texts : ∀ text ∈ request.texts, text.utf8ByteSize ≤ 2 ^ 31 - 1
  ids : ∀ id ∈ request.ids, id.length ≤ 65535
  resultMetadataId : version = .v5 → ∀ id ∈ request.resultMetadataId?, id.length ≤ 65535
  childCount : request.childCount ≤ 65535
  valueCounts : ∀ values ∈ request.valueLists, values.length ≤ 65535
  values : ∀ values ∈ request.valueLists, ∀ value ∈ values, value.Fits version
  valueNames : ∀ name ∈ request.valueNames, name.utf8ByteSize ≤ 65535
  pagingState : ∀ state ∈ request.pagingState?, state.length ≤ 2 ^ 31 - 1
  keyspace : ∀ keyspace ∈ request.keyspace?, version = .v5 ∧ keyspace.utf8ByteSize ≤ 65535

end Request

/-! ### Fields -/

namespace WriteStep

theorem passes_delimited_iff {kind : FieldKind} {content : Bytes} :
    (∀ step ∈ delimited kind content, step.Passes) ↔ content.length ≤ kind.maxLength := by
  rw [delimited, List.forall_mem_cons, List.forall_mem_singleton, ← FieldKind.lt_lengthLimit_iff]
  exact and_iff_left trivial

theorem passes_text_iff {kind : FieldKind} {content : String} :
    (∀ step ∈ text kind content, step.Passes) ↔ content.utf8ByteSize ≤ kind.maxLength := by
  rw [text, passes_delimited_iff, Bytes.length_ofString]

theorem passes_value_iff {version : ProtocolVersion} {content : EncodedValue} :
    (∀ step ∈ value version content, step.Passes) ↔ content.Fits version := by
  cases content with
  | bytes content => exact passes_delimited_iff
  | null => exact iff_of_true (List.forall_mem_singleton.mpr trivial) trivial
  | unset =>
    rw [value, List.forall_mem_cons, List.forall_mem_singleton]
    cases version <;> simp [Passes, EncodedValue.Fits, ProtocolVersion.writesUnset]

theorem passes_positionalValues_iff {version : ProtocolVersion} {values : List EncodedValue} :
    (∀ step ∈ positionalValues version values, step.Passes) ↔
      values.length ≤ 65535 ∧ ∀ value ∈ values, value.Fits version := by
  rw [positionalValues, List.forall_mem_cons, List.forall_mem_flatMap]
  exact and_congr FieldKind.lt_lengthLimit_iff
    (forall₂_congr fun _ _ => passes_value_iff)

theorem passes_namedValues_iff {version : ProtocolVersion}
    {values : List (String × EncodedValue)} :
    (∀ step ∈ namedValues version values, step.Passes) ↔
      values.length ≤ 65535 ∧
        ∀ pair ∈ values, pair.1.utf8ByteSize ≤ 65535 ∧ pair.2.Fits version := by
  rw [namedValues, List.forall_mem_cons, List.forall_mem_flatMap]
  refine and_congr FieldKind.lt_lengthLimit_iff (forall₂_congr fun pair _ => ?_)
  rw [List.forall_mem_append]
  exact and_congr passes_text_iff passes_value_iff

theorem passes_bytesMap_iff {payload : CustomPayload} :
    (∀ step ∈ bytesMap payload, step.Passes) ↔
      payload.size ≤ 65535 ∧ ∀ entry ∈ payload.toList,
        entry.1.utf8ByteSize ≤ 65535 ∧ entry.2.length ≤ 2 ^ 31 - 1 := by
  rw [bytesMap, List.forall_mem_cons, List.forall_mem_flatMap]
  refine and_congr FieldKind.lt_lengthLimit_iff (forall₂_congr fun entry _ => ?_)
  rw [List.forall_mem_append]
  exact and_congr passes_text_iff passes_delimited_iff

theorem passes_optional_iff {α : Type} {steps : α → List WriteStep} {content : Option α} :
    (∀ step ∈ optional steps content, step.Passes) ↔
      ∀ x ∈ content, ∀ step ∈ steps x, step.Passes := by
  cases content with
  | none => simp [optional]
  | some content => simp [optional]

theorem passes_onlyIf_iff {present : Bool} {steps : List WriteStep} :
    (∀ step ∈ onlyIf present steps, step.Passes) ↔
      (present → ∀ step ∈ steps, step.Passes) := by
  cases present with
  | false => simp [onlyIf]
  | true => simp [onlyIf]

theorem passes_serialConsistency (code : UInt16) :
    ∀ step ∈ serialConsistency code, step.Passes :=
  passes_onlyIf_iff.mpr fun _ => List.forall_mem_singleton.mpr trivial

theorem passes_timestamp (time : Timestamp) : ∀ step ∈ timestamp time, step.Passes :=
  passes_onlyIf_iff.mpr fun _ => List.forall_mem_singleton.mpr trivial

theorem passes_keyspaceGate_iff {version : ProtocolVersion} {keyspace : Option String} :
    (keyspaceGate version keyspace).Passes ↔ ∀ name ∈ keyspace, version = .v5 := by
  cases keyspace with
  | none => exact iff_of_true (Bool.or_true _) nofun
  | some name =>
    simp only [keyspaceGate, Passes, Option.isNone_some, Bool.or_false, Option.mem_some_iff,
      forall_eq']
    cases version <;> decide

end WriteStep

/-! ### Requests -/

theorem RequestFlags.passes_steps_iff {version : ProtocolVersion} {keyspace : Option String}
    {flags : RequestFlags} :
    (∀ step ∈ flags.steps version keyspace, step.Passes) ↔ ∀ name ∈ keyspace, version = .v5 := by
  rw [steps, List.forall_mem_cons, List.forall_mem_singleton, ← WriteStep.passes_keyspaceGate_iff]
  exact and_iff_left trivial

theorem BoundValues.passes_steps_iff {version : ProtocolVersion} {values : BoundValues} :
    (∀ step ∈ values.steps version, step.Passes) ↔
      (values.toList.length ≤ 65535 ∧ ∀ value ∈ values.toList, value.Fits version) ∧
        ∀ name ∈ values.names, name.utf8ByteSize ≤ 65535 := by
  rcases values with _ | (_ | ⟨value, values⟩) | (_ | ⟨value, values⟩)
  · simp [steps, toList, names]
  · simp [steps, toList, names]
  · rw [steps, WriteStep.passes_positionalValues_iff]
    exact (and_iff_left (List.forall_mem_nil _)).symm
  · simp [steps, toList, names]
  · rw [steps, WriteStep.passes_namedValues_iff, toList, names, List.length_map,
      List.forall_mem_map, List.forall_mem_map, and_assoc, ← forall₂_and]
    simp only [and_comm]

/-- Of the options of a request, the keyspace is looked at twice: among the flags, and where it is
written. -/
theorem QueryParameters.passes_steps_iff {version : ProtocolVersion} {options : QueryParameters} :
    (∀ step ∈ options.steps version, step.Passes) ↔
      ((options.values.toList.length ≤ 65535 ∧
          ∀ value ∈ options.values.toList, value.Fits version) ∧
        ∀ name ∈ options.values.names, name.utf8ByteSize ≤ 65535) ∧
      (∀ state ∈ options.pagingState, state.length ≤ 2 ^ 31 - 1) ∧
      ∀ name ∈ options.keyspace, version = .v5 ∧ name.utf8ByteSize ≤ 65535 := by
  have hserial := WriteStep.passes_serialConsistency options.serialConsistency
  have htime := WriteStep.passes_timestamp options.timestamp
  have hpage (b : Bytes) : ∀ step ∈ WriteStep.onlyIf options.isPaged [.raw b], step.Passes :=
    WriteStep.passes_onlyIf_iff.mpr fun _ => List.forall_mem_singleton.mpr trivial
  rw [steps]
  simp only [List.forall_mem_append, List.forall_mem_singleton, RequestFlags.passes_steps_iff,
    BoundValues.passes_steps_iff, WriteStep.passes_optional_iff, WriteStep.passes_delimited_iff,
    WriteStep.passes_text_iff]
  constructor
  · rintro ⟨-, hversion, hvalues, -, hstate, -, -, hkeyspace⟩
    exact ⟨hvalues, hstate, fun name hname => ⟨hversion name hname, hkeyspace name hname⟩⟩
  · rintro ⟨hvalues, hstate, hkeyspace⟩
    exact ⟨trivial, fun name hname => (hkeyspace name hname).1, hvalues, hpage _, hstate, hserial,
      htime, fun name hname => (hkeyspace name hname).2⟩

theorem BatchEntry.passes_steps_iff {entry : BatchEntry} :
    (∀ step ∈ entry.steps, step.Passes) ↔
      (∀ text ∈ entry.text?, text.utf8ByteSize ≤ 2 ^ 31 - 1) ∧
        ∀ id ∈ entry.id?, id.length ≤ 65535 := by
  cases entry with
  | query text =>
    rw [steps, List.forall_mem_cons, WriteStep.passes_text_iff]
    simp [WriteStep.Passes, text?, id?, FieldKind.maxLength]
  | prepared id =>
    rw [steps, List.forall_mem_cons, WriteStep.passes_delimited_iff]
    simp [WriteStep.Passes, text?, id?, FieldKind.maxLength]

/-- Where no element of two lists lacks a partner, all pairs have two properties exactly if all
elements have theirs. -/
theorem forall_mem_zip_iff {α β : Type} {P : α → Prop} {Q : β → Prop} {xs : List α} {ys : List β}
    (hlen : xs.length = ys.length) :
    (∀ pair ∈ xs.zip ys, P pair.1 ∧ Q pair.2) ↔ (∀ x ∈ xs, P x) ∧ ∀ y ∈ ys, Q y := by
  have hfst : (∀ pair ∈ xs.zip ys, P pair.1) ↔ ∀ x ∈ xs, P x := by
    have hmap : (xs.zip ys).map Prod.fst = xs := List.map_fst_zip hlen.le
    rw [← hmap, List.forall_mem_map, hmap]
  have hsnd : (∀ pair ∈ xs.zip ys, Q pair.2) ↔ ∀ y ∈ ys, Q y := by
    have hmap : (xs.zip ys).map Prod.snd = ys := List.map_snd_zip hlen.ge
    rw [← hmap, List.forall_mem_map, hmap]
  rw [forall₂_and, hfst, hsnd]

namespace BatchRequest

/-- Where every child has its values, the children pass if they and the lists of values do. -/
theorem passes_childSteps_iff {version : ProtocolVersion} {batch : BatchRequest}
    (hpaired : batch.entries.length = batch.values.length) :
    (∀ step ∈ batch.childSteps version, step.Passes) ↔
      ((∀ text ∈ batch.entries.filterMap BatchEntry.text?, text.utf8ByteSize ≤ 2 ^ 31 - 1) ∧
        ∀ id ∈ batch.entries.filterMap BatchEntry.id?, id.length ≤ 65535) ∧
      (∀ values ∈ batch.values, values.length ≤ 65535) ∧
      ∀ values ∈ batch.values, ∀ value ∈ values, value.Fits version := by
  have hzip := forall_mem_zip_iff (P := fun entry => ∀ step ∈ entry.steps, step.Passes)
    (Q := fun values => ∀ step ∈ WriteStep.positionalValues version values, step.Passes) hpaired
  rw [childSteps, List.forall_mem_flatMap]
  simp only [List.forall_mem_append]
  rw [hzip]
  simp only [BatchEntry.passes_steps_iff, WriteStep.passes_positionalValues_iff, forall₂_and,
    List.forall_mem_filterMap, Option.mem_def]

theorem passes_optionSteps_iff {version : ProtocolVersion} {batch : BatchRequest} :
    (∀ step ∈ batch.optionSteps version, step.Passes) ↔
      ∀ name ∈ batch.keyspace, version = .v5 ∧ name.utf8ByteSize ≤ 65535 := by
  have hserial := WriteStep.passes_serialConsistency batch.serialConsistency
  have htime := WriteStep.passes_timestamp batch.timestamp
  rw [optionSteps]
  simp only [List.forall_mem_append, List.forall_mem_singleton, RequestFlags.passes_steps_iff,
    WriteStep.passes_optional_iff, WriteStep.passes_text_iff]
  constructor
  · rintro ⟨-, hversion, -, -, hkeyspace⟩
    exact fun name hname => ⟨hversion name hname, hkeyspace name hname⟩
  · intro hkeyspace
    exact ⟨trivial, fun name hname => (hkeyspace name hname).1, hserial, htime,
      fun name hname => (hkeyspace name hname).2⟩

end BatchRequest

/-- A request fits exactly if all its steps pass. -/
theorem Request.passes_steps_iff {version : ProtocolVersion} {request : Request}
    (hpaired : request.IsPaired) :
    (∀ step ∈ request.steps version, step.Passes) ↔ request.Fits version := by
  cases request with
  | query request =>
    rw [steps, List.forall_mem_append, WriteStep.passes_text_iff,
      QueryParameters.passes_steps_iff]
    constructor
    · rintro ⟨htext, ⟨⟨hcount, hvalues⟩, hnames⟩, hstate, hkeyspace⟩
      exact {
        texts := List.forall_mem_singleton.mpr htext
        ids := List.forall_mem_nil _
        resultMetadataId := nofun
        childCount := Nat.zero_le _
        valueCounts := List.forall_mem_singleton.mpr hcount
        values := List.forall_mem_singleton.mpr hvalues
        valueNames := hnames
        pagingState := hstate
        keyspace := hkeyspace }
    · intro h
      have hcount := h.valueCounts _ (List.mem_singleton_self _)
      have hvalues := h.values _ (List.mem_singleton_self _)
      exact ⟨h.texts _ (List.mem_singleton_self _), ⟨⟨hcount, hvalues⟩, h.valueNames⟩,
        h.pagingState, h.keyspace⟩
  | execute request =>
    have hsends : version.sendsResultMetadataId ↔ version = .v5 := by cases version <;> decide
    -- An id that is not known is written as an empty one, which is never too long.
    have hid : (version.sendsResultMetadataId →
          (request.resultMetadataId.getD []).length ≤ FieldKind.shortBytes.maxLength) ↔
        (version = .v5 → ∀ id ∈ request.resultMetadataId, id.length ≤ 65535) := by
      rw [hsends]
      cases request.resultMetadataId <;> simp [FieldKind.maxLength]
    rw [steps, List.forall_mem_append, List.forall_mem_append, WriteStep.passes_delimited_iff,
      WriteStep.passes_onlyIf_iff, WriteStep.passes_delimited_iff, hid,
      QueryParameters.passes_steps_iff]
    constructor
    · rintro ⟨hid, hmetadataId, ⟨⟨hcount, hvalues⟩, hnames⟩, hstate, hkeyspace⟩
      exact {
        texts := List.forall_mem_nil _
        ids := List.forall_mem_singleton.mpr hid
        resultMetadataId := hmetadataId
        childCount := Nat.zero_le _
        valueCounts := List.forall_mem_singleton.mpr hcount
        values := List.forall_mem_singleton.mpr hvalues
        valueNames := hnames
        pagingState := hstate
        keyspace := hkeyspace }
    · intro h
      have hcount := h.valueCounts _ (List.mem_singleton_self _)
      have hvalues := h.values _ (List.mem_singleton_self _)
      exact ⟨h.ids _ (List.mem_singleton_self _), h.resultMetadataId,
        ⟨⟨hcount, hvalues⟩, h.valueNames⟩, h.pagingState, h.keyspace⟩
  | batch request =>
    rw [steps, List.forall_mem_append, List.forall_mem_append, BatchRequest.headSteps,
      List.forall_mem_cons, List.forall_mem_singleton, BatchRequest.passes_childSteps_iff hpaired,
      BatchRequest.passes_optionSteps_iff]
    constructor
    · rintro ⟨⟨-, hcount⟩, ⟨⟨htexts, hids⟩, hcounts, hvalues⟩, hkeyspace⟩
      exact {
        texts := htexts
        ids := hids
        resultMetadataId := nofun
        childCount := FieldKind.lt_lengthLimit_iff.mp hcount
        valueCounts := hcounts
        values := hvalues
        valueNames := List.forall_mem_nil _
        pagingState := nofun
        keyspace := hkeyspace }
    · intro h
      exact ⟨⟨trivial, FieldKind.lt_lengthLimit_iff.mpr h.childCount⟩,
        ⟨⟨h.texts, h.ids⟩, h.valueCounts, h.values⟩, h.keyspace⟩

/-! ### Frames -/

namespace Frame

variable {features : FeatureTable} {frame : Frame}

/-- Everything in the frame has a place on the wire. -/
structure IsWritable (features : FeatureTable) (frame : Frame) : Prop where
  /-- The custom payload counts only where it is written. -/
  payload : frame.writesPayload features →
    frame.customPayload.size ≤ 65535 ∧ ∀ entry ∈ frame.customPayload.toList,
      entry.1.utf8ByteSize ≤ 65535 ∧ entry.2.length ≤ 2 ^ 31 - 1
  request : frame.request.Fits frame.version
  body : frame.bodySize features ≤ 2 ^ 32 - 1

theorem passes_checkedSteps_iff (hpaired : frame.request.IsPaired) :
    (∀ step ∈ frame.checkedSteps features, step.Passes) ↔ frame.IsWritable features := by
  rw [checkedSteps, bodySteps, payloadSteps, List.forall_mem_append, List.forall_mem_append,
    WriteStep.passes_onlyIf_iff, WriteStep.passes_bytesMap_iff, Request.passes_steps_iff hpaired,
    List.forall_mem_singleton]
  constructor
  · rintro ⟨⟨hpayload, hrequest⟩, hbody⟩
    exact ⟨hpayload, hrequest, FieldKind.lt_lengthLimit_iff.mp hbody⟩
  · intro h
    exact ⟨⟨h.payload, h.request⟩, FieldKind.lt_lengthLimit_iff.mpr h.body⟩

/-- **When a frame can be written, and why it can not.**  Where each child of a batch has its
values, a frame can be written exactly if everything in it has a place on the wire.  Otherwise the
error is that of the first step that does not pass, in the order of writing: a length that does not
fit, as it is, or something that the version has no place for.  In a frame that has been written,
every length is the one that was to be written. -/
theorem encode_iff_isWritable (hpaired : frame.request.IsPaired) :
    ((∃ bytes, frame.encode features = .ok bytes) ↔ frame.IsWritable features) ∧
    (∀ error, frame.encode features = .error error ↔
      IsFirst ((frame.checkedSteps features).map WriteStep.Refuses) error) ∧
    ∀ bytes, frame.encode features = .ok bytes →
      bytes = (frame.headerSteps features ++ frame.bodySteps features).flatMap (·.bytes) ∧
      ∀ kind n,
        .length kind n ∈ frame.headerSteps features ++ frame.bodySteps features →
        (WriteStep.length kind n).bytes.length = kind.lengthWidth ∧
          (WriteStep.length kind n).bytes.toNat = n := by
  refine ⟨?_, failsBy_encode, fun bytes h => ?_⟩
  · rw [← passes_checkedSteps_iff hpaired]
    constructor
    · rintro ⟨bytes, h⟩
      exact (encode_eq_ok_iff_passes.mp h).1
    · intro hpasses
      exact ⟨_, encode_eq_ok_iff_passes.mpr ⟨hpasses, rfl⟩⟩
  · obtain ⟨hpasses, hbytes⟩ := encode_eq_ok_iff_passes.mp h
    obtain ⟨hbody, hlength⟩ := List.forall_mem_append.mp hpasses
    have hheader : ∀ step ∈ frame.headerSteps features, step.Passes :=
      frame.forall_headerSteps_passes_iff features |>.mpr (List.forall_mem_singleton.mp hlength)
    refine ⟨hbytes, fun kind n hmem => WriteStep.toNat_bytes_of_passes ?_⟩
    exact List.forall_mem_append.mpr ⟨hheader, hbody⟩ _ hmem

/-- A keyspace is refused before an unset value is, and a batch with both is written where both have
a place. -/
theorem encode_iff_isWritable_of_keyspace_and_unset :
    let refused : Frame := {
      version := .v3
      request := .query {
        query := "q"
        options := { values := .positional [.unset], keyspace := some "k" } } }
    let written : Frame := {
      version := .v5
      request := .batch {
        kind := 0
        entries := [.prepared [1]]
        values := [[.unset]]
        keyspace := some "k" } }
    refused.encode .standard = .error (.unsupported .requestKeyspace .v3) ∧
      ¬ refused.IsWritable .standard ∧
      written.IsWritable .standard ∧ ∃ bytes, written.encode .standard = .ok bytes := by
  intro refused written
  have herror : refused.encode .standard = .error (.unsupported .requestKeyspace .v3) := rfl
  have hrefused : ¬ refused.IsWritable .standard := by
    intro hwritable
    have hpaired : refused.request.IsPaired := trivial
    obtain ⟨bytes, hbytes⟩ := (encode_iff_isWritable hpaired).1.mpr hwritable
    exact nomatch herror.symm.trans hbytes
  have hwritten : written.IsWritable .standard := {
    payload := nofun
    request := {
      texts := by decide
      ids := by decide
      resultMetadataId := nofun
      childCount := by decide
      valueCounts := by decide
      values := by simp [written, Request.valueLists, EncodedValue.Fits]
      valueNames := by decide
      pagingState := nofun
      keyspace := by
        rintro name ⟨⟩
        decide }
    body := by decide }
  have hpaired : written.request.IsPaired := rfl
  exact ⟨herror, hrefused, hwritten, (encode_iff_isWritable hpaired).1.mpr hwritten⟩

end Frame

end CqlWire
