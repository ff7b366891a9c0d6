import CqlWire.Proofs.Field.Concat
import CqlWire.Request.Frame

/-!
# The layout of frames

A frame is a list of fields, and each field belongs to a part of the frame: the header, the custom
payload, the values of a statement, or what is left of the request.  Writing the fields one by one
keeps apart what belongs to which part (`Frame.write`), and put together the pieces are the bytes of
the frame (`Frame.encode_eq_write`).  The pieces of one part are the fields of that part in their
order (`writeFields_filter`).
-/

namespace CqlWire

/-- The parts of a frame. -/
inductive FramePart where
  | header
  | payload
  /-- A block of values, with the number of them. -/
  | values
  | other
  deriving DecidableEq, Repr

/-! ### Fields and the parts that they belong to -/

namespace FramePart

/-- Writes fields one by one, each with its part. -/
def writeFields (fields : List (FramePart × Encoded)) :
    Except FrameError (List (FramePart × Bytes)) :=
  fields.mapM fun (part, field) => do return (part, ← field)

/-- The bytes that a part takes. -/
def bytesOf (part : FramePart) (pieces : List (FramePart × Bytes)) : Bytes :=
  (pieces.filter (·.1 = part)).flatMap (·.2)

theorem writeFields_cons_eq_ok_iff {part : FramePart} {field : Encoded}
    {fields : List (FramePart × Encoded)} {pieces : List (FramePart × Bytes)} :
    writeFields ((part, field) :: fields) = .ok pieces ↔
      ∃ first rest, field = .ok first ∧ writeFields fields = .ok rest ∧
        pieces = (part, first) :: rest := by
  unfold writeFields
  rw [mapM_eq_ok_iff, List.forall₂_cons_left_iff]
  constructor
  · rintro ⟨⟨part', first⟩, rest, hfirst, hrest, rfl⟩
    obtain ⟨first', hfirst', h⟩ := bind_eq_ok_iff.mp hfirst
    obtain ⟨rfl, rfl⟩ := Prod.mk.inj (Except.ok.inj h)
    exact ⟨first', rest, hfirst', mapM_eq_ok_iff.mpr hrest, rfl⟩
  · rintro ⟨first, rest, rfl, hrest, rfl⟩
    exact ⟨(part, first), rest, rfl, mapM_eq_ok_iff.mp hrest, rfl⟩

/-- Put together, the pieces are what the fields are written as. -/
theorem concat_eq_writeFields (fields : List (FramePart × Encoded)) :
    Encoded.concat (fields.map (·.2)) = do return (← writeFields fields).flatMap (·.2) := by
  induction fields with
  | nil => rfl
  | cons head fields ih =>
    obtain ⟨part, field⟩ := head
    rw [List.map_cons, Encoded.concat_cons, ih]
    unfold writeFields
    rw [List.mapM_cons]
    cases field with
    | error error => rfl
    | ok first =>
      cases fields.mapM fun (part, field) => (do return (part, ← field) : Except FrameError _)
      · simp only [bind, Except.bind, pure, Except.pure]
      · simp only [bind, Except.bind, pure, Except.pure, List.flatMap_cons]

/-- The bytes of a part are what the fields of that part are written as. -/
theorem writeFields_filter (part : FramePart) {fields : List (FramePart × Encoded)}
    {pieces : List (FramePart × Bytes)} (h : writeFields fields = .ok pieces) :
    Encoded.concat ((fields.filter (·.1 = part)).map (·.2)) = .ok (bytesOf part pieces) := by
  induction fields generalizing pieces with
  | nil =>
    rw [← Except.ok.inj h]
    rfl
  | cons head fields ih =>
    obtain ⟨part', field⟩ := head
    obtain ⟨first, rest, hfirst, hrest, rfl⟩ := writeFields_cons_eq_ok_iff.mp h
    have hfields := ih hrest
    unfold bytesOf at hfields ⊢
    by_cases hpart : part' = part
    · rw [List.filter_cons_of_pos (by simpa using hpart),
        List.filter_cons_of_pos (by simpa using hpart), List.map_cons, List.flatMap_cons]
      exact Encoded.concat_cons_eq_ok_iff.mpr ⟨first, _, hfirst, hfields, rfl⟩
    · rw [List.filter_cons_of_neg (by simpa using hpart),
        List.filter_cons_of_neg (by simpa using hpart)]
      exact hfields

end FramePart

/-! ### Layouts -/

/-- The fields of the options of query and execute requests. -/
def QueryParameters.layout (version : ProtocolVersion) (options : QueryParameters) :
    List (FramePart × Encoded) :=
  [(.other, Field.number 2 options.consistency.toNat),
    (.other, options.flags.encode version),
    (.values, options.values.encode version),
    (.other, Field.onlyIf options.isPaged (Field.number 4 options.pageSize.toUInt32.toNat)),
    (.other, Field.optional Field.bytes options.pagingState),
    (.other, Field.serialConsistency options.serialConsistency),
    (.other, Field.timestamp options.timestamp),
    (.other, Field.optional Field.string options.keyspace)]

/-- The fields of a request. -/
def Request.layout (version : ProtocolVersion) : Request → List (FramePart × Encoded)
  | query request =>
    (.other, Field.longString request.query) :: request.options.layout version
  | execute request =>
    (.other, Field.shortBytes request.id) ::
    (.other, Field.onlyIf version.sendsResultMetadataId
      (Field.shortBytes (request.resultMetadataId.getD []))) ::
    request.options.layout version
  | batch request =>
    (.other, Field.number 1 request.kind.toNat) ::
    (.other, Field.length .batch request.entries.length) ::
    ((request.entries.zip request.values).flatMap fun (entry, values) =>
      [(.other, entry.encode), (.values, Field.positionalValues version values)]) ++
    [(.other, Field.number 2 request.consistency.toNat),
      (.other, request.flags.encode version),
      (.other, Field.serialConsistency request.serialConsistency),
      (.other, Field.timestamp request.timestamp),
      (.other, Field.optional Field.string request.keyspace)]

/-- The blocks of values of a request: one for the options, or one for each child of a batch. -/
def Request.valueBlocks (version : ProtocolVersion) : Request → List Encoded
  | query request => [request.options.values.encode version]
  | execute request => [request.options.values.encode version]
  | batch request =>
    (request.entries.zip request.values).map fun child => Field.positionalValues version child.2

namespace Request

theorem concat_layout (version : ProtocolVersion) (request : Request) :
    Encoded.concat ((request.layout version).map (·.2)) = request.encode version := by
  -- The layout has the fields of the options, or of the children, in line with the others.
  cases request with
  | query request =>
    show _ = Encoded.concat [_, Encoded.concat _]
    rw [Encoded.concat_cons, Encoded.concat_concat_cons, List.append_nil, ← Encoded.concat_cons]
    rfl
  | execute request =>
    show _ = Encoded.concat [_, _, Encoded.concat _]
    rw [Encoded.concat_cons, Encoded.concat_cons, Encoded.concat_concat_cons, List.append_nil,
      ← Encoded.concat_cons, ← Encoded.concat_cons]
    rfl
  | batch request =>
    show _ = Encoded.concat (_ :: _ :: Encoded.concat _ :: _)
    rw [Encoded.concat_cons, Encoded.concat_cons, Encoded.concat_concat_cons,
      ← Encoded.concat_cons, ← Encoded.concat_cons]
    simp only [layout, List.map_cons, List.map_append, List.map_nil, List.map_flatMap,
      List.cons_append]

theorem layout_filter_values (version : ProtocolVersion) (request : Request) :
    ((request.layout version).filter (·.1 = .values)).map (·.2) = request.valueBlocks version := by
  cases request with
  | query request => rfl
  | execute request => rfl
  | batch request =>
    have hchild (child : BatchEntry × List EncodedValue) :
        ([(.other, child.1.encode), (.values, Field.positionalValues version child.2)] :
            List (FramePart × Encoded)).filter (·.1 = .values)
          = [(.values, Field.positionalValues version child.2)] := rfl
    simp only [layout, valueBlocks, List.cons_append, List.filter_cons, List.filter_append,
      List.filter_flatMap, hchild, reduceCtorEq, decide_false, Bool.false_eq_true, if_false,
      List.filter_nil, List.append_nil]
    rw [← List.map_eq_flatMap, List.map_map]
    rfl

end Request

namespace Frame

/-- The fields of a frame.  The header tells the length of what follows it. -/
def layout (features : FeatureTable) (frame : Frame) : List (FramePart × Encoded) :=
  (.header, do frame.encodeHeader features (← frame.encodeBody features).length) ::
  (.payload, Field.onlyIf (frame.writesPayload features) (Field.bytesMap frame.customPayload)) ::
  frame.request.layout frame.version

/-- The pieces of a frame, each with the part that it belongs to. -/
def write (features : FeatureTable) (frame : Frame) :
    Except FrameError (List (FramePart × Bytes)) :=
  FramePart.writeFields (frame.layout features)

variable {features : FeatureTable} {frame : Frame}

theorem encode_eq_ok_iff {bytes : Bytes} :
    frame.encode features = .ok bytes ↔
      ∃ body header, frame.encodeBody features = .ok body ∧
        frame.encodeHeader features body.length = .ok header ∧ header ++ body = bytes := by
  unfold encode
  rw [bind_eq_ok_iff]
  constructor
  · rintro ⟨body, hbody, h⟩
    obtain ⟨header, hheader, h⟩ := bind_eq_ok_iff.mp h
    exact ⟨body, header, hbody, hheader, Except.ok.inj h⟩
  · rintro ⟨body, header, hbody, hheader, rfl⟩
    exact ⟨body, hbody, bind_eq_ok_iff.mpr ⟨header, hheader, rfl⟩⟩

theorem encodeBody_eq_concat :
    frame.encodeBody features
      = .concat (Field.onlyIf (frame.writesPayload features) (Field.bytesMap frame.customPayload) ::
        (frame.request.layout frame.version).map (·.2)) := by
  unfold encodeBody
  rw [← Request.concat_layout, Encoded.concat_cons, Encoded.concat_concat_cons, List.append_nil,
    ← Encoded.concat_cons]

/-- **A frame is written as its pieces are, one after the other.** -/
theorem encode_eq_write :
    frame.encode features = do return (← frame.write features).flatMap (·.2) := by
  rw [write, ← FramePart.concat_eq_writeFields, layout, List.map_cons, List.map_cons,
    Encoded.concat_cons, ← encodeBody_eq_concat, encode]
  -- The body is written first, and the header fails with it.
  cases frame.encodeBody features with
  | error error => rfl
  | ok body =>
    cases h : frame.encodeHeader features body.length with
    | error error => simp only [bind, Except.bind, h]
    | ok header => simp only [bind, Except.bind, pure, Except.pure, h]

end Frame

end CqlWire
