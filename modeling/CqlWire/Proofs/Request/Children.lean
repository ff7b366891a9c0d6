import CqlWire.Proofs.Request.OfStatement

/-!
# The children of batches

A batch request has an entry and a list of values for each child of its batch, in the order of the
children.  Of a child, only its text or the id of its prepared statement, and its values, go into
the request: the attributes that a child has on its own do not matter
(`Session.makeRequest_batch_children`).
-/

namespace CqlWire

variable {context : Context} {inputs : RequestInputs}

/-! ### Attributes of children -/

/-- The child with other attributes. -/
def BatchChild.withAttributes (child : BatchChild) (attributes : Attributes) : BatchChild :=
  match child with
  | simple statement => simple { statement with attributes }
  | bound statement => bound { statement with attributes }

theorem BatchChild.toEntry_withAttributes (child : BatchChild) (attributes : Attributes) :
    (child.withAttributes attributes).toEntry context = child.toEntry context := by
  cases child with
  | simple statement => rfl
  | bound statement => rfl

namespace BatchStatement

/-- The batch with other attributes for each of its children, by the places of the children.  The
batch keeps its own attributes. -/
def withChildAttributes (statement : BatchStatement) (attributesAt : Nat → Attributes) :
    BatchStatement :=
  { statement with
    children := statement.children.mapIdx fun i child => child.withAttributes (attributesAt i) }

variable (statement : BatchStatement) (attributesAt : Nat → Attributes)

theorem ensureAllSet_withChildAttributes :
    (statement.withChildAttributes attributesAt).ensureAllSet = statement.ensureAllSet := by
  refine forM_mapIdx (fun i child => ?_) _
  cases child with
  | simple statement => rfl
  | bound statement => rfl

theorem mapM_toEntry_withChildAttributes :
    (statement.withChildAttributes attributesAt).children.mapM (BatchChild.toEntry context)
      = statement.children.mapM (BatchChild.toEntry context) :=
  mapM_mapIdx (fun i child => child.toEntry_withAttributes (attributesAt i)) _

/-- The request of a batch does not depend on the attributes of the children. -/
theorem toRequest_withChildAttributes :
    (statement.withChildAttributes attributesAt).toRequest context inputs
      = statement.toRequest context inputs := by
  unfold toRequest
  rw [ensureAllSet_withChildAttributes, mapM_toEntry_withChildAttributes]
  rfl

end BatchStatement

/-! ### Places of children -/

namespace BatchStatement

variable {statement : BatchStatement} {entries : List (BatchEntry × List EncodedValue)} {i : Nat}

/-- What is sent for the child at a place stands at the same place. -/
theorem exists_toEntry_of_getElem? {child : BatchChild}
    (hentries : List.Forall₂ (fun child entry => child.toEntry context = .ok entry)
      statement.children entries) (hchild : statement.children[i]? = some child) :
    ∃ entry, child.toEntry context = .ok entry ∧
      (statement.batchOf inputs entries).entries[i]? = some entry.1 ∧
      (statement.batchOf inputs entries).values[i]? = some entry.2 := by
  obtain ⟨entry, hplace, hentry⟩ := exists_getElem?_of_forall₂ hentries hchild
  refine ⟨entry, hentry, ?_, ?_⟩
  · exact List.getElem?_map.trans (congrArg _ hplace)
  · exact List.getElem?_map.trans (congrArg _ hplace)

end BatchStatement

namespace Session

/-- The request of a batch that is made is a batch request. -/
theorem exists_batchOf_of_makeRequest {session : Session} {profile : Profile}
    {statement : BatchStatement} {request : Request}
    (h : (session.makeRequest profile (.batch statement)).1 = .ok request) :
    ∃ inputs entries,
      List.Forall₂ (fun child entry => child.toEntry session.context = .ok entry)
        statement.children entries ∧
        request = .batch (statement.batchOf inputs entries) := by
  obtain ⟨inputs, -, htranslated⟩ := exists_inputs_of_makeRequest h
  obtain ⟨-, -, entries, hentries, hrequest⟩ :=
    BatchStatement.toRequest_eq_ok_iff.mp htranslated
  exact ⟨inputs, entries, hentries, hrequest⟩

/-- **A batch request has the children of its batch in their order, and nothing of their
attributes.**  Whatever the codecs are, if it is made, it has as many entries and as many lists of
values as the batch has children.  At the place of a simple child stand its text and the encoded
forms of its positional values, and at the place of a bound child the id of its prepared statement
and its values as they were set.  With any other attributes of the children, the same session makes
the same request, or refuses it with the same error, under the same profile, and is left in the same
state. -/
theorem makeRequest_batch_children (session : Session) (profile : Profile)
    (statement : BatchStatement) :
    (∀ request, (session.makeRequest profile (.batch statement)).1 = .ok request →
      ∃ batch : BatchRequest, request = .batch batch ∧
        batch.entries.length = statement.children.length ∧
        batch.values.length = statement.children.length ∧
        (∀ (i : Nat) (simple : SimpleStatement),
          statement.children[i]? = some (.simple simple) →
          batch.entries[i]? = some (.query simple.query) ∧
            ∃ values, batch.values[i]? = some values ∧
              List.Forall₂ (fun value slot =>
                value.encode session.context.codecs session.context.version = .ok slot)
                simple.positional values) ∧
        (∀ (i : Nat) (bound : BoundStatement), statement.children[i]? = some (.bound bound) →
          batch.entries[i]? = some (.prepared bound.prepared.id) ∧
            batch.values[i]? = some bound.slots)) ∧
    ∀ attributesAt : Nat → Attributes,
      let other := statement.withChildAttributes attributesAt
      session.context.profileOf (.batch other) = session.context.profileOf (.batch statement) ∧
        session.makeRequest profile (.batch other)
          = session.makeRequest profile (.batch statement) := by
  refine ⟨fun request h => ?_, fun attributesAt => ⟨rfl, ?_⟩⟩
  · obtain ⟨inputs, entries, hentries, rfl⟩ := exists_batchOf_of_makeRequest h
    have hlength : entries.length = statement.children.length := hentries.length_eq.symm
    refine ⟨_, rfl, ?_, ?_, fun i simple hchild => ?_, fun i bound hchild => ?_⟩
    · exact (List.length_map _).trans hlength
    · exact (List.length_map _).trans hlength
    · obtain ⟨entry, hentry, hquery, hvalues⟩ :=
        BatchStatement.exists_toEntry_of_getElem? hentries hchild
      obtain ⟨-, values, hencoded, rfl⟩ := BatchChild.toEntry_simple_eq_ok_iff.mp hentry
      exact ⟨hquery, values, hvalues, mapM_eq_ok_iff.mp hencoded⟩
    · obtain ⟨entry, hentry, hid, hvalues⟩ :=
        BatchStatement.exists_toEntry_of_getElem? hentries hchild
      obtain rfl := Except.ok.inj hentry
      exact ⟨hid, hvalues⟩
  · unfold makeRequest Statement.toRequest
    simp only [BatchStatement.toRequest_withChildAttributes]
    rfl

/-- A batch of a text with a value and of a prepared statement with a null. -/
theorem makeRequest_batch_children_of_simple_and_bound :
    let session : Session := { context := { version := .v4 }, timestamps := .counter 1000 1 }
    let prepared : PreparedStatement :=
      { handle := 0
        id := [1]
        query := ""
        markers := [⟨"k", "t", "c", .native .int⟩]
        partitionKey := []
        preparedShape := {}
        boundDefaults := {}
        customPayload := ∅
        codecs := .standard
        version := .v4 }
    let simple : SimpleStatement := { query := "q", positional := [.blob [7]] }
    let bound : BoundStatement :=
      { prepared, slots := [.null], attributes := {}, length_slots := rfl }
    let statement : BatchStatement :=
      { kind := .logged, children := [.simple simple, .bound bound] }
    ∃ batch : BatchRequest,
      (session.makeRequest .standard (.batch statement)).1 = .ok (.batch batch) ∧
      batch.entries.length = 2 ∧ batch.values.length = 2 ∧
      batch.entries[0]? = some (.query "q") ∧ batch.entries[1]? = some (.prepared [1]) ∧
      (∃ values, batch.values[0]? = some values ∧
        List.Forall₂ (fun value slot => value.encode .standard .v4 = .ok slot) [Value.blob [7]]
          values) ∧
      batch.values[1]? = some [.null] := by
  intro session prepared simple bound statement
  obtain ⟨request, hmade⟩ :
      ∃ request, (session.makeRequest .standard (.batch statement)).1 = .ok request := ⟨_, rfl⟩
  obtain ⟨batch, rfl, hentries, hvalues, hsimple, hbound⟩ :=
    (makeRequest_batch_children session .standard statement).1 request hmade
  obtain ⟨hquery, hencoded⟩ := hsimple 0 simple rfl
  obtain ⟨hid, hslots⟩ := hbound 1 bound rfl
  exact ⟨batch, hmade, hentries, hvalues, hquery, hid, hencoded, hslots⟩

end Session

end CqlWire
