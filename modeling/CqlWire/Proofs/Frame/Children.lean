import CqlWire.Proofs.Frame.Steps

/-!
# The children of batch frames

The children and the lists of values of a batch are two lists.  A batch frame tells the number of
children, but contains those that have values, and nothing looks at whether the two lists are of one
length.  `Frame.children_of_batch` says what stands in the frame, that it is all of the batch only
if the lists are of one length, and that a child or list without a partner is never the reason why a
batch can not be written.
-/

namespace CqlWire

namespace BatchRequest

/-- The children that have values, each with its values. -/
def pairs (batch : BatchRequest) : List (BatchEntry × List EncodedValue) :=
  batch.entries.zip batch.values

/-- The batch without the children and the lists of values that have no partner. -/
def paired (batch : BatchRequest) : BatchRequest :=
  { batch with entries := batch.pairs.map (·.1), values := batch.pairs.map (·.2) }

theorem pairs_paired (batch : BatchRequest) : batch.paired.pairs = batch.pairs := by
  have hentries : batch.paired.entries = batch.pairs.map Prod.fst := rfl
  have hvalues : batch.paired.values = batch.pairs.map Prod.snd := rfl
  rw [pairs, hentries, hvalues, List.zip_map', List.map_id']

theorem childSteps_paired (version : ProtocolVersion) (batch : BatchRequest) :
    batch.paired.childSteps version = batch.childSteps version := by
  show batch.paired.pairs.flatMap _ = batch.pairs.flatMap _
  rw [pairs_paired]

theorem childrenSize_paired (batch : BatchRequest) :
    batch.paired.childrenSize = batch.childrenSize := by
  show FieldSize.total (batch.paired.pairs.map _) = FieldSize.total (batch.pairs.map _)
  rw [pairs_paired]

theorem length_entries_paired_le (batch : BatchRequest) :
    batch.paired.entries.length ≤ batch.entries.length := by
  show (batch.pairs.map _).length ≤ _
  rw [List.length_map, pairs, List.length_zip]
  exact Nat.min_le_left _ _

/-- A child behind which its values stand. -/
def encodeChild (version : ProtocolVersion) (child : BatchEntry × List EncodedValue) : Encoded :=
  .concat [child.1.encode, Field.positionalValues version child.2]

/-- Every child is among the pairs exactly if the values reach. -/
theorem map_fst_pairs_eq_iff {batch : BatchRequest} :
    batch.pairs.map (·.1) = batch.entries ↔ batch.entries.length ≤ batch.values.length := by
  constructor
  · intro h
    have hlength := congrArg List.length h
    rw [List.length_map, pairs, List.length_zip] at hlength
    omega
  · exact List.map_fst_zip

/-- Every list of values is among the pairs exactly if the children reach. -/
theorem map_snd_pairs_eq_iff {batch : BatchRequest} :
    batch.pairs.map (·.2) = batch.values ↔ batch.values.length ≤ batch.entries.length := by
  constructor
  · intro h
    have hlength := congrArg List.length h
    rw [List.length_map, pairs, List.length_zip] at hlength
    omega
  · exact List.map_snd_zip

/-- The children that are written stand one after the other. -/
theorem exists_children {version : ProtocolVersion} {batch : BatchRequest}
    (hpasses : ∀ step ∈ batch.childSteps version, step.Passes) :
    ∃ children,
      List.Forall₂ (fun child piece => encodeChild version child = .ok piece)
        batch.pairs children ∧
      (batch.childSteps version).flatMap (·.bytes) = children.flatten := by
  have hwritten (child : BatchEntry × List EncodedValue) :=
    Field.writtenBy_pair BatchEntry.writtenBy_encode (Field.writtenBy_positionalValues version)
      child
  refine ⟨batch.pairs.map fun child =>
    (child.1.steps ++ WriteStep.positionalValues version child.2).flatMap (·.bytes), ?_, ?_⟩
  · rw [List.forall₂_map_right_iff, List.forall₂_same]
    intro child hchild
    refine (hwritten child).eq_ok_iff.mpr ⟨fun step hstep => ?_, rfl⟩
    exact hpasses step (List.mem_flatMap.mpr ⟨child, hchild, hstep⟩)
  · rw [childSteps, List.flatMap_assoc, ← List.flatMap_def]
    rfl

/-- What stands in front of the children passes if they are not too many to be counted. -/
theorem passes_headSteps {batch : BatchRequest} (hcount : batch.entries.length ≤ 65535) :
    ∀ step ∈ batch.headSteps, step.Passes :=
  List.forall_mem_cons.mpr ⟨trivial, List.forall_mem_singleton.mpr (Nat.lt_succ_of_le hcount)⟩

end BatchRequest

namespace Frame

variable {features : FeatureTable} {frame : Frame} {batch : BatchRequest}

/-- The custom payload takes as many bytes as its size says. -/
theorem length_flatMap_payloadSteps (h : ∀ step ∈ frame.payloadSteps features, step.Passes) :
    ((frame.payloadSteps features).flatMap (·.bytes)).length = frame.payloadSize features := by
  have hsize : HasSize
      (Field.onlyIf (frame.writesPayload features) (Field.bytesMap frame.customPayload))
      (frame.payloadSize features) :=
    Field.hasSize_onlyIf _ (Field.hasSize_bytesMap _)
  exact hsize ((frame.writtenBy_payload features).eq_ok_iff.mpr ⟨h, rfl⟩)

theorem bodySteps_of_batch (hrequest : frame.request = .batch batch) :
    frame.bodySteps features
      = frame.payloadSteps features ++ (batch.headSteps ++
        (batch.childSteps frame.version ++ batch.optionSteps frame.version)) := by
  rw [bodySteps, hrequest]
  rfl

/-- A batch is refused for the same reasons without what has no partner, unless there are too many
children to be counted. -/
theorem encode_eq_error_iff_paired (hrequest : frame.request = .batch batch)
    (hcount : batch.entries.length ≤ 65535) (error : FrameError) :
    frame.encode features = .error error ↔
      { frame with request := .batch batch.paired }.encode features = .error error := by
  have hsize : { frame with request := .batch batch.paired }.bodySize features
      = frame.bodySize features := by
    rw [bodySize, bodySize, hrequest, Request.size, Request.size,
      BatchRequest.childrenSize_paired]
    rfl
  have hrequest' : { frame with request := .batch batch.paired }.request
      = .batch batch.paired := rfl
  have hhead := BatchRequest.passes_headSteps hcount
  have hhead' := BatchRequest.passes_headSteps (batch.length_entries_paired_le.trans hcount)
  rw [failsBy_encode error, failsBy_encode error, checkedSteps, checkedSteps, hsize,
    bodySteps_of_batch hrequest, bodySteps_of_batch hrequest']
  -- Only the steps in front of the children differ, and all of them pass.
  simp only [List.append_assoc]
  rw [WriteStep.isFirst_append_of_passes hhead, WriteStep.isFirst_append_of_passes hhead',
    BatchRequest.childSteps_paired]
  rfl

/-- **A batch frame contains the children that have values, whatever it says about their number.**
If it is written, it counts all children of the batch, and the children that follow are those that
have values, in order, each with its values.  So the count is right exactly if every child has
values, and the frame holds the whole batch exactly if the two lists are of one length.  That they
are not is no reason to refuse the batch: it is refused for the same reasons without the children
and lists of values that have no partner, unless there are too many children to be counted. -/
theorem children_of_batch (hrequest : frame.request = .batch batch) :
    (∀ bytes, frame.encode features = .ok bytes →
      ∃ front count children back,
        bytes = front ++ count ++ children.flatten ++ back ∧
        front.length = frame.version.headerSize + frame.payloadSize features + 1 ∧
        count.length = 2 ∧ count.toNat = batch.entries.length ∧
        List.Forall₂ (fun child piece => BatchRequest.encodeChild frame.version child = .ok piece)
          batch.pairs children ∧
        back = (batch.optionSteps frame.version).flatMap (·.bytes) ∧
        (count.toNat = children.length ↔ batch.entries.length ≤ batch.values.length) ∧
        (batch.pairs.map (·.1) = batch.entries ∧ batch.pairs.map (·.2) = batch.values ↔
          batch.entries.length = batch.values.length)) ∧
    (batch.entries.length ≤ 65535 → ∀ error,
      frame.encode features = .error error ↔
        { frame with request := .batch batch.paired }.encode features = .error error) := by
  refine ⟨fun bytes h => ?_, encode_eq_error_iff_paired hrequest⟩
  obtain ⟨hpasses, hbytes⟩ := encode_eq_ok_iff_passes.mp h
  rw [checkedSteps, bodySteps_of_batch hrequest] at hpasses
  simp only [List.forall_mem_append] at hpasses
  obtain ⟨⟨hpayload, hhead, hchildren, -⟩, -⟩ := hpasses
  obtain ⟨children, hforall, hflatten⟩ := BatchRequest.exists_children hchildren
  have hcount : (WriteStep.length .batch batch.entries.length).Passes :=
    hhead _ (List.mem_cons_of_mem _ (List.mem_singleton_self _))
  obtain ⟨hwidth, hread⟩ := WriteStep.toNat_bytes_of_passes hcount
  have hlength : children.length = min batch.entries.length batch.values.length := by
    rw [← hforall.length_eq, BatchRequest.pairs, List.length_zip]
  refine ⟨(frame.headerSteps features).flatMap (·.bytes)
    ++ (frame.payloadSteps features).flatMap (·.bytes) ++ Bytes.bigEndian 1 batch.kind.toNat,
    _, children, _, ?_, ?_, hwidth, hread, hforall, rfl, ?_, ?_⟩
  · rw [hbytes, bodySteps_of_batch hrequest, ← hflatten, BatchRequest.headSteps]
    simp only [List.flatMap_append, List.flatMap_cons, List.flatMap_nil, List.append_assoc,
      List.append_nil, WriteStep.bytes]
  · have hheader : ((frame.headerSteps features).flatMap (·.bytes)).length
        = frame.version.headerSize := by
      simp [headerSteps, WriteStep.bytes, FieldKind.lengthWidth, ProtocolVersion.headerSize]
    rw [List.length_append, List.length_append, hheader, length_flatMap_payloadSteps hpayload,
      Bytes.length_bigEndian]
  · rw [hread, hlength]
    omega
  · rw [BatchRequest.map_fst_pairs_eq_iff, BatchRequest.map_snd_pairs_eq_iff]
    omega

/-- A batch of two children of which only the first has values. -/
def halfPaired : Frame := {
  version := .v4
  request := .batch {
    kind := 0
    entries := [.prepared [1], .prepared [2]]
    values := [[]] } }

/-- The frame counts both children and contains one. -/
theorem children_of_batch_of_halfPaired :
    ∃ (bytes front count : Bytes) (children : List Bytes) (back : Bytes),
      halfPaired.encode .standard = .ok bytes ∧
      bytes = front ++ count ++ children.flatten ++ back ∧
      count.toNat = 2 ∧ children.length = 1 := by
  obtain ⟨bytes, hbytes⟩ : ∃ bytes, halfPaired.encode .standard = .ok bytes := ⟨_, by rfl⟩
  have hrequest : halfPaired.request = .batch _ := rfl
  obtain ⟨front, count, children, back, heq, -, -, hcount, hchildren, -⟩ :=
    (children_of_batch hrequest).1 bytes hbytes
  exact ⟨bytes, front, count, children, back, hbytes, heq, hcount, hchildren.length_eq.symm⟩

end Frame

end CqlWire
