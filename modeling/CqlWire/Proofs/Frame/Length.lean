import CqlWire.Proofs.Frame.Steps

/-!
# The length of frames

The header of a frame tells how many bytes follow it, and the sizes of the fields add up to just
that many (`Frame.length_of_encode`).  Which optional fields are there is told here by the contents
of the request (`FieldSize.closing`, `FieldSize.parameters`), not by what the flags announce.
-/

namespace CqlWire

namespace FieldSize

/-- Pairs take what both sides take, if none of them is without a partner. -/
theorem total_zip_add {α β : Type} (size : α → Nat) (size' : β → Nat) {xs : List α} {ys : List β}
    (hlength : xs.length = ys.length) :
    total ((xs.zip ys).map fun pair => size pair.1 + size' pair.2)
      = total (xs.map size) + total (ys.map size') := by
  induction xs generalizing ys with
  | nil =>
    obtain rfl := List.length_eq_zero_iff.mp hlength.symm
    rfl
  | cons x xs ih =>
    cases ys with
    | nil => exact nomatch hlength
    | cons y ys =>
      have hrest := ih (Nat.succ.inj hlength)
      simp only [List.zip_cons_cons, List.map_cons, total]
      omega

/-! ### Optional fields -/

/-- The size of the fields at the end of every request: a serial consistency other than the usual
one, the time of the write, and the keyspace. -/
def closing (serial : UInt16) (time : Timestamp) (keyspace : Option String) : Nat :=
  (if serial = Consistency.serial.code then 0 else 2) + (if time = Timestamp.unset then 0 else 8)
    + optional string keyspace

/-- The size of the options of query and execute requests. -/
def parameters (version : ProtocolVersion) (options : QueryParameters) : Nat :=
  2 + version.flagsSize + options.values.size + (if 0 < options.pageSize then 4 else 0)
    + optional bytes options.pagingState
    + closing options.serialConsistency options.timestamp options.keyspace

theorem serialConsistency_eq (serial : UInt16) :
    serialConsistency serial = if serial = Consistency.serial.code then 0 else 2 := by
  unfold serialConsistency onlyIf writesSerialConsistency
  by_cases h : serial = Consistency.serial.code
  · rw [if_pos h, if_neg (by simpa using h)]
  · rw [if_neg h, if_pos (bne_iff_ne.mpr h)]

theorem timestamp_eq (time : Timestamp) :
    timestamp time = if time = Timestamp.unset then 0 else 8 := by
  unfold timestamp onlyIf writesTimestamp
  by_cases h : time = Timestamp.unset
  · rw [if_pos h, if_neg (by simpa using h)]
  · rw [if_neg h, if_pos (bne_iff_ne.mpr h)]

/-- The fields at the end are the last three that a request is written with. -/
theorem closing_eq (serial : UInt16) (time : Timestamp) (keyspace : Option String) :
    closing serial time keyspace
      = serialConsistency serial + (timestamp time + optional string keyspace) := by
  rw [closing, serialConsistency_eq, timestamp_eq, Nat.add_assoc]

theorem parameters_eq (version : ProtocolVersion) (options : QueryParameters) :
    parameters version options = options.size version := by
  have hpaged : onlyIf options.isPaged 4 = if 0 < options.pageSize then 4 else 0 := by
    simp only [onlyIf, QueryParameters.isPaged, decide_eq_true_eq]
  rw [parameters, closing_eq, QueryParameters.size, hpaged]
  omega

end FieldSize

/-! ### Frames -/

namespace Frame

variable {features : FeatureTable} {frame : Frame} {bytes : Bytes}

/-- Behind the first five bytes of a frame stands the number of the bytes behind its header. -/
theorem exists_length_of_encode (h : frame.encode features = .ok bytes) :
    ∃ front count body : Bytes, bytes = front ++ count ++ body ∧ front.length = 5 ∧
      count.length = 4 ∧ count.toNat = body.length ∧ body.length = frame.bodySize features := by
  obtain ⟨hpasses, hbytes⟩ := encode_eq_ok_iff_passes.mp h
  obtain ⟨hbody, hlength⟩ := List.forall_mem_append.mp hpasses
  obtain ⟨hwidth, hread⟩ :=
    WriteStep.toNat_bytes_of_passes (List.forall_mem_singleton.mp hlength)
  have hsize : ((frame.bodySteps features).flatMap (·.bytes)).length = frame.bodySize features :=
    frame.hasSize_encodeBody features
      ((frame.writtenBy_encodeBody features).eq_ok_iff.mpr ⟨hbody, rfl⟩)
  refine ⟨Bytes.bigEndian 1 frame.version.number ++ (Bytes.bigEndian 1 (frame.headerFlags features)
    ++ (Bytes.bigEndian 2 frame.stream.toUInt16.toNat
    ++ Bytes.bigEndian 1 frame.request.opcode.toNat)), _, _, ?_, ?_, hwidth,
    hread.trans hsize.symm, hsize⟩
  · rw [hbytes, headerSteps]
    simp only [List.flatMap_append, List.flatMap_cons, List.flatMap_nil, List.append_assoc,
      List.append_nil, WriteStep.bytes]
  · simp only [List.length_append, Bytes.length_bigEndian]

/-- **A frame is as long as the sizes of its fields say, and its header says so.**  The four bytes
behind the first five are the number of the bytes behind the header, which are nine less than the
whole frame.  The frame takes the nine bytes of the header, the size of the custom payload if there
is one and the version supports it, and the size of the request: a query takes its text and its
options; an execute request its id, from version 5 on the id of the known metadata, and its options;
a batch with one list of values for each child takes its kind, the number of children, each child
behind the byte that tells texts from ids, each list of values, the consistency, the flags, and the
fields at the end. -/
theorem length_of_encode (h : frame.encode features = .ok bytes) :
    (∃ front count body : Bytes, bytes = front ++ count ++ body ∧ front.length = 5 ∧
      count.length = 4 ∧ count.toNat = bytes.length - 9 ∧ body.length = bytes.length - 9) ∧
    ∃ size,
      bytes.length
        = 9 + (if !frame.customPayload.isEmpty && features frame.version .customPayload then
            FieldSize.bytesMap frame.customPayload else 0) + size ∧
      (∀ query, frame.request = .query query →
        size = FieldSize.longString query.query
          + FieldSize.parameters frame.version query.options) ∧
      (∀ execute, frame.request = .execute execute →
        size = FieldSize.shortBytes execute.id
          + (if frame.version = .v5 then
              FieldSize.shortBytes (execute.resultMetadataId.getD []) else 0)
          + FieldSize.parameters frame.version execute.options) ∧
      (∀ batch, frame.request = .batch batch → batch.entries.length = batch.values.length →
        size = 1 + 2
          + (FieldSize.total (batch.entries.map fun
              | .query text => 1 + FieldSize.longString text
              | .prepared id => 1 + FieldSize.shortBytes id)
            + FieldSize.total (batch.values.map FieldSize.positionalValues))
          + 2 + frame.version.flagsSize
          + FieldSize.closing batch.serialConsistency batch.timestamp batch.keyspace) := by
  obtain ⟨front, count, body, hbytes, hfront, hwidth, hcount, hbody⟩ := exists_length_of_encode h
  have hlength : bytes.length = 9 + body.length := by
    rw [hbytes, List.length_append, List.length_append, hfront, hwidth]
  refine ⟨⟨front, count, body, hbytes, hfront, hwidth, by omega, by omega⟩,
    frame.request.size frame.version, ?_, fun query hquery => ?_, fun execute hexecute => ?_,
    fun batch hbatch hpaired => ?_⟩
  · rw [hlength, hbody, bodySize, ← Nat.add_assoc]
    rfl
  · rw [hquery, Request.size, FieldSize.parameters_eq]
  · have hid (size : Nat) : FieldSize.onlyIf frame.version.sendsResultMetadataId size
        = if frame.version = .v5 then size else 0 := by
      cases frame.version <;> rfl
    rw [hexecute, Request.size, FieldSize.parameters_eq, hid, Nat.add_assoc]
  · have hchildren : batch.childrenSize = FieldSize.total (batch.entries.map BatchEntry.size)
        + FieldSize.total (batch.values.map FieldSize.positionalValues) :=
      FieldSize.total_zip_add _ _ hpaired
    have hentry : BatchEntry.size = fun
        | .query text => 1 + FieldSize.longString text
        | .prepared id => 1 + FieldSize.shortBytes id := by
      funext entry
      cases entry <;> rfl
    rw [hbatch, Request.size, FieldSize.closing_eq, hchildren, hentry]
    omega

/-- A batch of a text and a prepared statement, with a keyspace and a serial consistency that is not
the usual one. -/
theorem length_of_encode_of_batch :
    let batch : BatchRequest :=
      { kind := 0
        entries := [.query "q", .prepared [9]]
        values := [[.null, .bytes [7]], []]
        serialConsistency := Consistency.localSerial.code
        keyspace := some "k" }
    let frame : Frame := { version := .v5, request := .batch batch }
    ∃ bytes front count body : Bytes, frame.encode .standard = .ok bytes ∧
      bytes = front ++ count ++ body ∧ front.length = 5 ∧ count.length = 4 ∧ count.toNat = 37 ∧
      bytes.length = 9 + (1 + 2 + (6 + 4 + (11 + 2)) + 2 + 4 + (2 + 3)) := by
  intro batch frame
  obtain ⟨bytes, hbytes⟩ : ∃ bytes, frame.encode .standard = .ok bytes := ⟨_, rfl⟩
  obtain ⟨⟨front, count, body, hparts, hfront, hwidth, hcount, -⟩, size, hlength, -, -, hbatch⟩ :=
    length_of_encode hbytes
  have hsize : size = 37 := hbatch batch rfl rfl
  have htotal : bytes.length = 9 + 0 + size := hlength
  rw [hsize] at htotal
  rw [htotal] at hcount
  exact ⟨bytes, front, count, body, hbytes, hparts, hfront, hwidth, hcount, htotal⟩

end Frame

end CqlWire
