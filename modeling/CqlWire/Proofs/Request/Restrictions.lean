import CqlWire.Proofs.Codec.Encoding
import CqlWire.Proofs.Frame.Failure
import CqlWire.Proofs.Request.OfStatement

/-!
# Restrictions of the protocol version

Whether a version can send what a statement asks for is checked twice: when its request is made, and
again when the frame is written.  The first check covers keyspaces and the markers of bound
statements.  It passes over unset values that a simple statement was given, by itself or as the
child of a batch; on version 3 these are found only when the frame is written, and the frame can not
be written then (`Session.encode_eq_unsupported_iff`).
-/

namespace CqlWire

/-! ### Unset values keep being unset -/

variable {context : Context} {inputs : RequestInputs} {request : Request}

/-- Only unset is encoded as unset: a codec gives bytes. -/
theorem Value.encode_eq_unset_iff {value : Value} {encoded : EncodedValue}
    (h : value.encode context.codecs context.version = .ok encoded) :
    encoded = .unset ↔ value = .unset := by
  cases encodeWith_eq_ok_iff.mp h with
  | null => exact iff_of_false nofun nofun
  | unset => exact iff_of_true rfl rfl
  | token position => exact iff_of_false nofun nofun
  | byCodec hneeds hfound hbytes =>
    refine iff_of_false nofun ?_
    rintro rfl
    exact hneeds

theorem Value.unset_mem_encodePositional {values : List Value} {encoded : List EncodedValue}
    (h : encodePositional context.codecs context.version values = .ok encoded) :
    .unset ∈ encoded ↔ .unset ∈ values := by
  have hiff := exists_mem_iff_of_forall₂ (mapM_eq_ok_iff.mp h)
    fun value encoded hvalue => (encode_eq_unset_iff hvalue).symm
  simpa using hiff.symm

theorem Value.unset_mem_encodeNamed {values : List (String × Value)}
    {encoded : List (String × EncodedValue)}
    (h : encodeNamed context.codecs context.version values = .ok encoded) :
    .unset ∈ encoded.map (·.2) ↔ .unset ∈ values.map (·.2) := by
  have hpair : ∀ (value : String × Value) (encoded : String × EncodedValue),
      (do return (value.1, ← value.2.encode context.codecs context.version) :
        Except ClientError (String × EncodedValue)) = .ok encoded →
        (value.2 = .unset ↔ encoded.2 = .unset) := by
    rintro ⟨name, value⟩ encoded hvalue
    obtain ⟨content, hcontent, hvalue⟩ := bind_eq_ok_iff.mp hvalue
    rw [← Except.ok.inj hvalue]
    exact (encode_eq_unset_iff hcontent).symm
  have hiff := exists_mem_iff_of_forall₂ (mapM_eq_ok_iff.mp h) hpair
  simpa [List.mem_map] using hiff.symm

/-! ### Unset values that a statement was given -/

/-- Whether a statement was given an unset value, other than by a marker of a bound statement. -/
def Statement.GivesUnset : Statement → Prop
  | simple statement => .unset ∈ statement.positional ∨ .unset ∈ statement.named.map (·.2)
  | bound _ => False
  | batch statement =>
    ∃ simple, .simple simple ∈ statement.children ∧ .unset ∈ simple.positional

theorem SimpleStatement.unset_mem_sentValues {statement : SimpleStatement} {values : BoundValues}
    (hmixed : statement.positional.isEmpty ∨ statement.named.isEmpty)
    (hvalues : statement.boundValues context = .ok values) :
    .unset ∈ values.toList ↔ (Statement.simple statement).GivesUnset := by
  simp only [List.isEmpty_iff] at hmixed
  unfold Statement.GivesUnset
  rcases boundValues_eq_ok_iff.mp hvalues with ⟨hne, encoded, hencoded, rfl⟩ |
    ⟨hnil, -, encoded, hencoded, rfl⟩ | ⟨hnil, hnil', rfl⟩
  · have hnamed : statement.named = [] := hmixed.resolve_left hne
    simp only [BoundValues.toList, Value.unset_mem_encodePositional hencoded, hnamed,
      List.map_nil, List.not_mem_nil, or_false]
  · simp only [BoundValues.toList, Value.unset_mem_encodeNamed hencoded, hnil, List.not_mem_nil,
      false_or]
  · simp [BoundValues.toList, hnil, hnil']

theorem BoundStatement.unset_notMem_sentValues {statement : BoundStatement}
    (hcomplete : statement.IsComplete) :
    .unset ∉ Request.sentValues (.execute (statement.executeOf inputs)) := by
  intro hmem
  simp only [Request.sentValues, executeOf] at hmem
  split_ifs at hmem
  · exact absurd hmem List.not_mem_nil
  · exact hcomplete _ hmem rfl

theorem BatchStatement.unset_mem_sentValues {statement : BatchStatement}
    {entries : List (BatchEntry × List EncodedValue)} (hcomplete : statement.IsComplete)
    (hentries : List.Forall₂ (fun child entry => child.toEntry context = .ok entry)
      statement.children entries) :
    .unset ∈ Request.sentValues (.batch (statement.batchOf inputs entries)) ↔
      (Statement.batch statement).GivesUnset := by
  have hchild : ∀ (child : BatchChild) (entry : BatchEntry × List EncodedValue),
      child ∈ statement.children ∧ child.toEntry context = .ok entry →
        ((∃ simple, child = .simple simple ∧ .unset ∈ simple.positional) ↔ .unset ∈ entry.2) := by
    rintro (simple | bound) entry ⟨hmem, hentry⟩
    · obtain ⟨-, values, hvalues, rfl⟩ := BatchChild.toEntry_simple_eq_ok_iff.mp hentry
      simp [Value.unset_mem_encodePositional hvalues]
    · have hslots : .unset ∉ bound.slots := fun h => hcomplete bound hmem _ h rfl
      rw [← Except.ok.inj hentry]
      simpa using hslots
  -- Completeness is known for the children of this batch only, so membership is kept along.
  have hall := (List.forall₂_and_left _ _).mpr ⟨fun _ hmem => hmem, hentries⟩
  have hiff := exists_mem_iff_of_forall₂ hall hchild
  rw [Request.sentValues, zip_batchOf, List.mem_flatMap, ← hiff, Statement.GivesUnset]
  constructor
  · rintro ⟨_, hmem, simple, rfl, hunset⟩
    exact ⟨simple, hmem, hunset⟩
  · rintro ⟨simple, hmem, hunset⟩
    exact ⟨_, hmem, simple, rfl, hunset⟩

/-- Where unset values are not supported, those that are sent are those that a simple statement was
given. -/
theorem Statement.unset_mem_sentValues {statement : Statement}
    (h : statement.toRequest context inputs = .ok request)
    (hunset : context.supports .unsetValues = false) :
    .unset ∈ request.sentValues ↔ statement.GivesUnset := by
  cases statement with
  | simple statement =>
    obtain ⟨hmixed, -, values, hvalues, rfl⟩ := SimpleStatement.toRequest_eq_ok_iff.mp h
    exact SimpleStatement.unset_mem_sentValues hmixed hvalues
  | bound statement =>
    obtain ⟨hcomplete, rfl⟩ := BoundStatement.toRequest_eq_ok_iff.mp h
    exact iff_of_false (BoundStatement.unset_notMem_sentValues (hcomplete hunset)) id
  | batch statement =>
    obtain ⟨hcomplete, -, entries, hentries, rfl⟩ := BatchStatement.toRequest_eq_ok_iff.mp h
    exact BatchStatement.unset_mem_sentValues (hcomplete hunset) hentries

/-! ### Keyspaces -/

/-- A request names a keyspace only where that is supported. -/
theorem Statement.supports_of_keyspace? {statement : Statement}
    (h : statement.toRequest context inputs = .ok request) (hkeyspace : request.keyspace?.isSome) :
    context.supports .requestKeyspace := by
  cases statement with
  | simple statement =>
    obtain ⟨-, hsupports, values, -, rfl⟩ := SimpleStatement.toRequest_eq_ok_iff.mp h
    exact hsupports hkeyspace
  | bound statement =>
    obtain ⟨-, rfl⟩ := BoundStatement.toRequest_eq_ok_iff.mp h
    exact absurd hkeyspace nofun
  | batch statement =>
    obtain ⟨-, hsupports, entries, -, rfl⟩ := BatchStatement.toRequest_eq_ok_iff.mp h
    exact hsupports hkeyspace

/-! ### Versions -/

namespace FeatureTable

theorem standard_unsetValues (version : ProtocolVersion) :
    standard version .unsetValues = version.writesUnset := by
  cases version <;> rfl

theorem standard_requestKeyspace (version : ProtocolVersion) :
    standard version .requestKeyspace = version.hasWideFlags := by
  cases version <;> rfl

end FeatureTable

theorem ProtocolVersion.writesUnset_eq_false_iff {version : ProtocolVersion} :
    version.writesUnset = false ↔ version = .v3 := by
  cases version <;> simp [writesUnset]

/-! ### What is left for the frame to find -/

section

variable {statement : Statement} {frame : Frame}

theorem Context.supports_unsetValues_of_standard (hfeatures : context.features = .standard) :
    context.supports .unsetValues = context.version.writesUnset := by
  rw [supports, hfeatures, FeatureTable.standard_unsetValues]

/-- If the frame is refused for its version, that is because of an unset value: a keyspace was
checked before. -/
theorem Statement.givesUnset_of_encode_eq_unsupported {feature : Feature}
    {version : ProtocolVersion} (hfeatures : context.features = .standard)
    (htranslated : statement.toRequest context inputs = .ok frame.request)
    (hversion : frame.version = context.version)
    (h : frame.encode context.features = .error (.unsupported feature version)) :
    feature = .unsetValues ∧ version = frame.version ∧ frame.version.writesUnset = false ∧
      statement.GivesUnset := by
  rcases Frame.failsOnly_encode h with (hlong | ⟨herror, hwrites, hmem⟩) | ⟨-, hwide, hkeyspace⟩
  · exact hlong.elim
  · obtain ⟨rfl, rfl⟩ := FrameError.unsupported.inj herror
    have hunset : context.supports .unsetValues = false := by
      rw [Context.supports_unsetValues_of_standard hfeatures, ← hversion, hwrites]
    exact ⟨rfl, rfl, hwrites, (unset_mem_sentValues htranslated hunset).mp hmem⟩
  · have hsupports := supports_of_keyspace? htranslated hkeyspace
    rw [Context.supports, hfeatures, FeatureTable.standard_requestKeyspace, ← hversion, hwide]
      at hsupports
    exact absurd hsupports Bool.false_ne_true

/-- An unset value that a simple statement was given always stops the frame on version 3. -/
theorem Statement.exists_encode_eq_error_of_givesUnset (hfeatures : context.features = .standard)
    (htranslated : statement.toRequest context inputs = .ok frame.request)
    (hversion : frame.version = context.version) (hwrites : frame.version.writesUnset = false)
    (hgives : statement.GivesUnset) :
    ∃ error, frame.encode context.features = .error error := by
  have hunset : context.supports .unsetValues = false := by
    rw [Context.supports_unsetValues_of_standard hfeatures, ← hversion, hwrites]
  exact Frame.exists_encode_eq_error hwrites
    ((unset_mem_sentValues htranslated hunset).mpr hgives)

end

/-- **A request is refused for its protocol version exactly where version 3 meets an unset value
that a simple statement was given**, unless something too long is found before.  Every such request
is refused; no keyspace is, and no bound statement. -/
theorem Session.encode_eq_unsupported_iff {session : Session} {profile : Profile}
    {statement : Statement} {frame : Frame} (hfeatures : session.context.features = .standard)
    (hrequest : (session.makeRequest profile statement).1 = .ok request)
    (hframe : frame.request = request) (hversion : frame.version = session.context.version)
    (feature : Feature) (version : ProtocolVersion) :
    frame.encode session.context.features = .error (.unsupported feature version) ↔
      feature = .unsetValues ∧ version = .v3 ∧ session.context.version = .v3 ∧
      statement.GivesUnset ∧
      ∀ kind length, frame.encode session.context.features ≠ .error (.tooLong kind length) := by
  obtain ⟨inputs, -, htranslated⟩ := exists_inputs_of_makeRequest hrequest
  subst hframe
  rw [← hversion]
  constructor
  · intro h
    obtain ⟨rfl, rfl, hwrites, hgives⟩ :=
      Statement.givesUnset_of_encode_eq_unsupported hfeatures htranslated hversion h
    have hv3 := ProtocolVersion.writesUnset_eq_false_iff.mp hwrites
    refine ⟨rfl, hv3, hv3, hgives, fun kind length hlong => ?_⟩
    rw [h] at hlong
    exact absurd hlong nofun
  · rintro ⟨rfl, rfl, hv3, hgives, hlong⟩
    have hwrites := ProtocolVersion.writesUnset_eq_false_iff.mpr hv3
    -- The frame fails somehow; too long is excluded, and there is one other reason.
    obtain ⟨error, herror⟩ := Statement.exists_encode_eq_error_of_givesUnset hfeatures htranslated
      hversion hwrites hgives
    cases error with
    | tooLong kind length => exact absurd herror (hlong kind length)
    | unsupported feature version =>
      obtain ⟨rfl, rfl, -, -⟩ :=
        Statement.givesUnset_of_encode_eq_unsupported hfeatures htranslated hversion herror
      rw [herror, hv3]

/-- A batch on version 3 whose child is a query with an unset value has a request, but no frame. -/
theorem Session.encode_eq_unsupported_of_unset_in_batch :
    let session : Session := { context := { version := .v3 }, timestamps := .serverSide }
    let child : SimpleStatement := { query := "q", positional := [.unset] }
    let statement : Statement := .batch { kind := .logged, children := [.simple child] }
    let request : Request :=
      .batch { kind := 0, entries := [.query "q"], values := [[.unset]], consistency := 10 }
    let frame := session.frame statement request
    (session.makeRequest .standard statement).1 = .ok request ∧ statement.GivesUnset ∧
      frame.encode session.context.features = .error (.unsupported .unsetValues .v3) := by
  intro session child statement request frame
  have hrequest : (session.makeRequest .standard statement).1 = .ok request := rfl
  have hgives : statement.GivesUnset := ⟨child, List.mem_cons_self, List.mem_cons_self⟩
  have hlong : ∀ kind length,
      frame.encode session.context.features ≠ .error (.tooLong kind length) := nofun
  have hframe : frame.request = request := rfl
  have hiff := encode_eq_unsupported_iff rfl hrequest hframe rfl .unsetValues .v3
  exact ⟨hrequest, hgives, hiff.mpr ⟨rfl, rfl, rfl, hgives, hlong⟩⟩

end CqlWire
