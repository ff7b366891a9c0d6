import CqlWire.Proofs.Frame.Size
import CqlWire.Proofs.Request.OfStatement
import CqlWire.Request.Estimate

/-!
# Size estimates

Where a statement has a request, the estimate for its values is exact: it is the number of bytes
that the blocks of values take in the frame.  The whole estimate is never more than the frame
(`Session.minimumRequestSize_add_sizeOfValues_le`).

The estimate counts a serial consistency, which most requests leave out.  What makes up for it is
the length in front of the text of a query or of the id of a prepared statement, and the kind and
the number of children of a batch.
-/

namespace CqlWire

variable {context : Context} {inputs : RequestInputs} {request : Request}

/-! ### Values of a request -/

theorem BoundValues.size_positional {values : List EncodedValue} (h : values ≠ []) :
    (positional values).size = FieldSize.positionalValues values := by
  cases values with
  | nil => exact absurd rfl h
  | cons value values => rfl

theorem BoundValues.size_named {values : List (String × EncodedValue)} (h : values ≠ []) :
    (named values).size = FieldSize.namedValues values := by
  cases values with
  | nil => exact absurd rfl h
  | cons value values => rfl

/-- The size of the blocks of values of a request. -/
def Request.valuesSize : Request → Nat
  | query request => request.options.values.size
  | execute request => request.options.values.size
  | batch request =>
    FieldSize.total ((request.entries.zip request.values).map fun child =>
      FieldSize.positionalValues child.2)

theorem Request.hasSize_valueBlocks (version : ProtocolVersion) (request : Request) :
    HasSize (.concat (request.valueBlocks version)) request.valuesSize := by
  cases request with
  | query request => exact (request.options.values.hasSize_encode version).concat_singleton
  | execute request => exact (request.options.values.hasSize_encode version).concat_singleton
  | batch request =>
    exact HasSize.concat_map (fun child : BatchEntry × List EncodedValue =>
      Field.hasSize_positionalValues version child.2) _

/-- The values of the children of a batch are part of what the children take. -/
theorem BatchRequest.valuesSize_le (batch : BatchRequest) :
    Request.valuesSize (.batch batch) ≤ batch.childrenSize := by
  refine FieldSize.total_map_le (fun child => ?_) _
  exact Nat.le_add_left _ _

/-- Besides its values, a request has flags, a consistency, and at least two bytes more. -/
theorem Request.valuesSize_add_le (version : ProtocolVersion) (request : Request) :
    version.flagsSize + 2 + 2 + request.valuesSize ≤ request.size version := by
  cases request with
  | query request =>
    simp only [size, valuesSize, QueryParameters.size, FieldSize.longString]
    omega
  | execute request =>
    -- Here nothing is left over where the id is empty and no other optional part is there.
    simp only [size, valuesSize, QueryParameters.size, FieldSize.shortBytes]
    omega
  | batch request =>
    have hvalues := request.valuesSize_le
    simp only [size]
    omega

/-! ### Values of a statement -/

theorem Value.ne_nil_of_encodePositional {values : List Value} {encoded : List EncodedValue}
    (hne : values ≠ [])
    (h : encodePositional context.codecs context.version values = .ok encoded) :
    encoded ≠ [] := by
  rintro rfl
  exact hne (List.forall₂_nil_right_iff.mp (mapM_eq_ok_iff.mp h))

theorem Value.ne_nil_of_encodeNamed {values : List (String × Value)}
    {encoded : List (String × EncodedValue)} (hne : values ≠ [])
    (h : encodeNamed context.codecs context.version values = .ok encoded) : encoded ≠ [] := by
  rintro rfl
  exact hne (List.forall₂_nil_right_iff.mp (mapM_eq_ok_iff.mp h))

theorem SimpleStatement.sizeOfValues_eq {statement : SimpleStatement} {values : BoundValues}
    (h : statement.boundValues context = .ok values) :
    statement.sizeOfValues context = .ok values.size := by
  unfold sizeOfValues
  rcases boundValues_eq_ok_iff.mp h with ⟨hne, encoded, hencoded, rfl⟩ |
    ⟨hnil, hne, encoded, hencoded, rfl⟩ | ⟨hnil, hnil', rfl⟩
  -- There are as many encoded values as values, so the block is there where they are.
  · rw [if_pos (by simpa using hne), hencoded,
      BoundValues.size_positional (Value.ne_nil_of_encodePositional hne hencoded)]
    rfl
  · rw [if_neg (by simp [hnil]), if_pos (by simpa using hne), hencoded,
      BoundValues.size_named (Value.ne_nil_of_encodeNamed hne hencoded)]
    rfl
  · rw [if_neg (by simp [hnil]), if_neg (by simp [hnil'])]
    rfl

theorem BoundStatement.sizeOfValues_eq (statement : BoundStatement) :
    (Statement.bound statement).sizeOfValues context
      = .ok (Request.valuesSize (.execute (statement.executeOf inputs))) := by
  simp only [Statement.sizeOfValues, Request.valuesSize, executeOf]
  cases statement.slots <;> rfl

theorem BatchChild.sizeOfValues_eq {child : BatchChild} {entry : BatchEntry × List EncodedValue}
    (h : child.toEntry context = .ok entry) :
    child.sizeOfValues context = .ok (FieldSize.positionalValues entry.2) := by
  cases child with
  | simple statement =>
    obtain ⟨-, values, hvalues, rfl⟩ := toEntry_simple_eq_ok_iff.mp h
    rw [sizeOfValues, hvalues]
    rfl
  | bound statement =>
    rw [← Except.ok.inj h]
    rfl

theorem BatchStatement.sizeOfValues_eq {statement : BatchStatement}
    {entries : List (BatchEntry × List EncodedValue)}
    (h : List.Forall₂ (fun child entry => child.toEntry context = .ok entry) statement.children
      entries) :
    (Statement.batch statement).sizeOfValues context
      = .ok (Request.valuesSize (.batch (statement.batchOf inputs entries))) := by
  have hsizes : statement.children.mapM (BatchChild.sizeOfValues context)
      = .ok (entries.map fun entry => FieldSize.positionalValues entry.2) := by
    rw [mapM_eq_ok_iff, List.forall₂_map_right_iff]
    exact h.imp fun _ _ => BatchChild.sizeOfValues_eq
  simp only [Statement.sizeOfValues, hsizes, Request.valuesSize, zip_batchOf]
  rfl

/-- The estimate for the values of a statement is the size of the blocks of values of its
request. -/
theorem Statement.sizeOfValues_eq {statement : Statement}
    (h : statement.toRequest context inputs = .ok request) :
    statement.sizeOfValues context = .ok request.valuesSize := by
  cases statement with
  | simple statement =>
    obtain ⟨-, -, values, hvalues, rfl⟩ := SimpleStatement.toRequest_eq_ok_iff.mp h
    exact statement.sizeOfValues_eq hvalues
  | bound statement =>
    obtain ⟨-, rfl⟩ := BoundStatement.toRequest_eq_ok_iff.mp h
    exact statement.sizeOfValues_eq
  | batch statement =>
    obtain ⟨-, -, entries, hentries, rfl⟩ := BatchStatement.toRequest_eq_ok_iff.mp h
    exact statement.sizeOfValues_eq hentries

/-! ### Frames -/

theorem Frame.layout_filter_values (features : FeatureTable) (frame : Frame) :
    ((frame.layout features).filter (·.1 = .values)).map (·.2)
      = frame.request.valueBlocks frame.version :=
  Request.layout_filter_values frame.version frame.request

theorem Frame.length_bytesOf_values {features : FeatureTable} {frame : Frame}
    {pieces : List (FramePart × Bytes)} (h : frame.write features = .ok pieces) :
    (FramePart.bytesOf .values pieces).length = frame.request.valuesSize := by
  have hblocks := FramePart.writeFields_filter .values h
  rw [layout_filter_values] at hblocks
  exact frame.request.hasSize_valueBlocks frame.version hblocks

/-- The estimate for what every request has is that of the frame it is sent in. -/
theorem Statement.minimumRequestSize_eq {statement : Statement} {frame : Frame}
    (hversion : frame.version = context.version)
    (hpayload : frame.customPayload = statement.attributes.customPayload) :
    statement.minimumRequestSize context
      = frame.version.headerSize + frame.payloadSize context.features + frame.version.flagsSize
        + 2 + 2 := by
  simp only [minimumRequestSize, Frame.payloadSize, FieldSize.onlyIf, Frame.writesPayload,
    Context.supports, hversion, hpayload]
  rfl

/-- **The estimate for the values is exact, and the whole estimate never exceeds the frame.**  This
holds for every statement that has a request, whatever the codecs are, and every frame in which the
request can be sent. -/
theorem Session.minimumRequestSize_add_sizeOfValues_le {session : Session} {profile : Profile}
    {statement : Statement} {frame : Frame} {bytes : Bytes}
    (hrequest : (session.makeRequest profile statement).1 = .ok request)
    (hframe : frame.request = request) (hversion : frame.version = session.context.version)
    (hpayload : frame.customPayload = statement.attributes.customPayload)
    (hencode : frame.encode session.context.features = .ok bytes) :
    ∃ pieces size, frame.write session.context.features = .ok pieces ∧
      pieces.flatMap (·.2) = bytes ∧ statement.sizeOfValues session.context = .ok size ∧
      size = (FramePart.bytesOf .values pieces).length ∧
      statement.minimumRequestSize session.context + size ≤ bytes.length := by
  obtain ⟨inputs, -, htranslated⟩ := exists_inputs_of_makeRequest hrequest
  subst hframe
  have hlength := frame.hasSize_encode session.context.features hencode
  rw [Frame.encode_eq_write] at hencode
  obtain ⟨pieces, hpieces, hbytes⟩ := bind_eq_ok_iff.mp hencode
  refine ⟨pieces, frame.request.valuesSize, hpieces, Except.ok.inj hbytes,
    Statement.sizeOfValues_eq htranslated, (Frame.length_bytesOf_values hpieces).symm, ?_⟩
  -- Header and payload are counted in full, so only the request has to make up for the rest.
  have hle := frame.request.valuesSize_add_le frame.version
  rw [Statement.minimumRequestSize_eq hversion hpayload, hlength]
  omega

/-- An execute request with an empty id and one null, and with no optional part besides, takes
exactly what was estimated. -/
theorem Session.minimumRequestSize_add_sizeOfValues_eq_of_empty_id :
    let session : Session := { context := { version := .v4 }, timestamps := .serverSide }
    let profile := Profile.standard.set .requestPageSize (.int 0)
    let prepared : PreparedStatement :=
      { handle := 0
        id := []
        query := ""
        markers := [⟨"k", "t", "c", .native .int⟩]
        partitionKey := []
        preparedShape := {}
        boundDefaults := {}
        customPayload := ∅
        codecs := .standard
        version := .v4 }
    let statement : Statement :=
      .bound { prepared, slots := [.null], attributes := {}, length_slots := rfl }
    let request : Request :=
      .execute {
        id := []
        resultMetadataId := none
        options := { consistency := 10, values := .positional [.null], pageSize := 0 } }
    let frame := session.frame statement request
    let bytes : Bytes := [4, 0, 0, 0, 10, 0, 0, 0, 11, 0, 0, 0, 10, 1, 0, 1, 255, 255, 255, 255]
    (session.makeRequest profile statement).1 = .ok request ∧
      frame.encode session.context.features = .ok bytes ∧
      ∃ pieces size, frame.write session.context.features = .ok pieces ∧
        statement.sizeOfValues session.context = .ok size ∧
        size = (FramePart.bytesOf .values pieces).length ∧
        statement.minimumRequestSize session.context + size = bytes.length := by
  intro session profile prepared statement request frame bytes
  have hrequest : (session.makeRequest profile statement).1 = .ok request := rfl
  have hencode : frame.encode session.context.features = .ok bytes := by decide
  obtain ⟨pieces, size, hpieces, -, hsize, hvalues, -⟩ :=
    minimumRequestSize_add_sizeOfValues_le hrequest rfl rfl rfl hencode
  have hminimum : statement.minimumRequestSize session.context = 14 := rfl
  have hexact : size = 6 := (Except.ok.inj hsize).symm
  refine ⟨hrequest, hencode, pieces, size, hpieces, hsize, hvalues, ?_⟩
  rw [hminimum, hexact]
  rfl

end CqlWire
