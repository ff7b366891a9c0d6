import CqlWire.Proofs.Outcome
import CqlWire.Session

/-!
# What a statement is translated to

For each kind of statement, when it has a request and which one
(`SimpleStatement.toRequest_eq_ok_iff`, `BoundStatement.toRequest_eq_ok_iff`,
`BatchStatement.toRequest_eq_ok_iff`).  Everything that is proved about the requests of statements
starts from these three; a session adds only the inputs (`Session.exists_inputs_of_makeRequest`).
-/

namespace CqlWire

variable {context : Context} {inputs : RequestInputs} {request : Request}

/-! ### Checks -/

theorem Context.checkKeyspace_eq_ok_iff {keyspace : Option String} :
    context.checkKeyspace keyspace = .ok () ↔
      (keyspace.isSome → context.supports .requestKeyspace) := by
  unfold checkKeyspace
  cases keyspace.isSome <;> cases context.supports .requestKeyspace <;> simp

/-- Whether each marker has a value. -/
def BoundStatement.IsComplete (statement : BoundStatement) : Prop :=
  ∀ slot ∈ statement.slots, slot ≠ .unset

theorem BoundStatement.ensureAllSet_eq_ok_iff {statement : BoundStatement} :
    statement.ensureAllSet = .ok () ↔ statement.IsComplete := by
  have hnone : statement.firstUnset? = none ↔ statement.IsComplete := by
    simp only [firstUnset?, List.findIdx?_eq_none_iff, Bool.eq_false_iff, ne_eq,
      EncodedValue.isUnset_iff, IsComplete]
  rw [← hnone, ensureAllSet]
  cases statement.firstUnset? <;> simp

/-- Whether each marker of each bound child has a value. -/
def BatchStatement.IsComplete (statement : BatchStatement) : Prop :=
  ∀ bound, .bound bound ∈ statement.children → bound.IsComplete

theorem BatchStatement.ensureAllSet_eq_ok_iff {statement : BatchStatement} :
    statement.ensureAllSet = .ok () ↔ statement.IsComplete := by
  unfold ensureAllSet
  rw [forM_eq_ok_iff]
  constructor
  · intro h bound hbound
    exact BoundStatement.ensureAllSet_eq_ok_iff.mp (h (.bound bound) hbound)
  · rintro h (simple | bound) hchild
    · rfl
    · exact BoundStatement.ensureAllSet_eq_ok_iff.mpr (h bound hchild)

/-! ### Simple statements -/

namespace SimpleStatement

variable {statement : SimpleStatement}

/-- The query request of a simple statement with these encoded values. -/
def queryOf (statement : SimpleStatement) (inputs : RequestInputs) (values : BoundValues) :
    QueryRequest :=
  { query := statement.query
    options := {
      consistency := inputs.settings.consistency.code
      values
      pageSize := inputs.settings.pageSize
      pagingState := statement.attributes.pagingState
      serialConsistency := inputs.settings.serialConsistency.code
      timestamp := inputs.timestamp
      keyspace := statement.attributes.keyspace } }

/-- A simple statement has a request if it does not mix values, its keyspace can be sent, and its
values can be encoded. -/
theorem toRequest_eq_ok_iff :
    statement.toRequest context inputs = .ok request ↔
      (statement.positional.isEmpty ∨ statement.named.isEmpty) ∧
      (statement.attributes.keyspace.isSome → context.supports .requestKeyspace) ∧
      ∃ values, statement.boundValues context = .ok values ∧
        request = .query (statement.queryOf inputs values) := by
  unfold toRequest
  refine check_bind_eq_ok_iff.trans (and_congr ?_ ?_)
  · have hthrow : (throw (.invalidArgument .mixedValues) : Except ClientError Unit) ≠ .ok () :=
      nofun
    cases statement.positional.isEmpty <;> cases statement.named.isEmpty <;> simp [hthrow]
  · rw [← Context.checkKeyspace_eq_ok_iff, bind_eq_ok_iff]
    constructor
    · rintro ⟨⟨⟩, hkeyspace, h⟩
      obtain ⟨values, hvalues, h⟩ := bind_eq_ok_iff.mp h
      exact ⟨hkeyspace, values, hvalues, (Except.ok.inj h).symm⟩
    · rintro ⟨hkeyspace, values, hvalues, rfl⟩
      exact ⟨(), hkeyspace, bind_eq_ok_iff.mpr ⟨values, hvalues, rfl⟩⟩

/-- The encoded values of a simple statement are its positional values, or its named values where
there are no positional ones. -/
theorem boundValues_eq_ok_iff {values : BoundValues} :
    statement.boundValues context = .ok values ↔
      (statement.positional ≠ [] ∧ ∃ encoded,
        Value.encodePositional context.codecs context.version statement.positional = .ok encoded ∧
          values = .positional encoded) ∨
      (statement.positional = [] ∧ statement.named ≠ [] ∧ ∃ encoded,
        Value.encodeNamed context.codecs context.version statement.named = .ok encoded ∧
          values = .named encoded) ∨
      (statement.positional = [] ∧ statement.named = [] ∧ values = .empty) := by
  unfold boundValues
  rcases statement.positional with _ | ⟨value, positional⟩
  · rcases statement.named with _ | ⟨value, named⟩
    · simp [pure, Except.pure, eq_comm]
    · simp only [List.isEmpty_nil, List.isEmpty_cons, Bool.not_true, Bool.not_false,
        Bool.false_eq_true, if_false, if_true, bind_eq_ok_iff]
      simp [pure, Except.pure, eq_comm]
  · simp only [List.isEmpty_cons, Bool.not_false, if_true, bind_eq_ok_iff]
    simp [pure, Except.pure, eq_comm]

end SimpleStatement

/-! ### Bound statements -/

namespace BoundStatement

variable {statement : BoundStatement}

/-- The execute request of a bound statement. -/
def executeOf (statement : BoundStatement) (inputs : RequestInputs) : ExecuteRequest :=
  let shape := inputs.shapes.current statement.prepared
  { id := statement.prepared.id
    resultMetadataId := shape.id
    options := {
      consistency := inputs.settings.consistency.code
      values := if statement.slots.isEmpty then .empty else .positional statement.slots
      skipMetadata := !shape.columns.isEmpty
      pageSize := inputs.settings.pageSize
      pagingState := statement.attributes.pagingState
      serialConsistency := inputs.settings.serialConsistency.code
      timestamp := inputs.timestamp } }

/-- A bound statement has a request if each marker has a value or need not have one. -/
theorem toRequest_eq_ok_iff :
    statement.toRequest context inputs = .ok request ↔
      (context.supports .unsetValues = false → statement.IsComplete) ∧
      request = .execute (statement.executeOf inputs) := by
  unfold toRequest
  refine check_bind_eq_ok_iff.trans (and_congr ?_ ?_)
  · rw [ensureAllSet_eq_ok_iff, Bool.not_eq_true']
  · exact ⟨fun h => (Except.ok.inj h).symm, fun h => h ▸ rfl⟩

end BoundStatement

/-! ### Batches -/

theorem BatchChild.toEntry_simple_eq_ok_iff {statement : SimpleStatement}
    {entry : BatchEntry × List EncodedValue} :
    (BatchChild.simple statement).toEntry context = .ok entry ↔
      statement.named = [] ∧ ∃ values,
        Value.encodePositional context.codecs context.version statement.positional = .ok values ∧
          entry = (.query statement.query, values) := by
  rw [toEntry]
  rcases statement.named with _ | ⟨value, named⟩
  · simp only [List.isEmpty_nil, Bool.not_true, Bool.false_eq_true, if_false, bind_eq_ok_iff]
    simp [pure, Except.pure, eq_comm]
  · simp

namespace BatchStatement

variable {statement : BatchStatement}

/-- The batch request of a batch whose children are sent as these entries. -/
def batchOf (statement : BatchStatement) (inputs : RequestInputs)
    (entries : List (BatchEntry × List EncodedValue)) : BatchRequest :=
  { kind := statement.kind.code
    entries := entries.map (·.1)
    values := entries.map (·.2)
    consistency := inputs.settings.consistency.code
    serialConsistency := inputs.settings.serialConsistency.code
    timestamp := inputs.timestamp
    keyspace := statement.attributes.keyspace }

/-- A batch has a request if each marker of its children has a value or need not have one, its
keyspace can be sent, and each child can be. -/
theorem toRequest_eq_ok_iff :
    statement.toRequest context inputs = .ok request ↔
      (context.supports .unsetValues = false → statement.IsComplete) ∧
      (statement.attributes.keyspace.isSome → context.supports .requestKeyspace) ∧
      ∃ entries, List.Forall₂ (fun child entry => child.toEntry context = .ok entry)
          statement.children entries ∧ request = .batch (statement.batchOf inputs entries) := by
  unfold toRequest
  refine check_bind_eq_ok_iff.trans (and_congr ?_ ?_)
  · rw [ensureAllSet_eq_ok_iff, Bool.not_eq_true']
  · rw [← Context.checkKeyspace_eq_ok_iff, bind_eq_ok_iff]
    constructor
    · rintro ⟨⟨⟩, hkeyspace, h⟩
      obtain ⟨entries, hentries, h⟩ := bind_eq_ok_iff.mp h
      exact ⟨hkeyspace, entries, mapM_eq_ok_iff.mp hentries, (Except.ok.inj h).symm⟩
    · rintro ⟨hkeyspace, entries, hentries, rfl⟩
      exact ⟨(), hkeyspace, bind_eq_ok_iff.mpr ⟨entries, mapM_eq_ok_iff.mpr hentries, rfl⟩⟩

/-- Each child keeps its values. -/
theorem zip_batchOf (entries : List (BatchEntry × List EncodedValue)) :
    (statement.batchOf inputs entries).entries.zip (statement.batchOf inputs entries).values
      = entries :=
  (List.zip_of_prod rfl rfl).symm

end BatchStatement

/-! ### Sessions -/

/-- A session makes the requests of its statements from its own shapes. -/
theorem Session.exists_inputs_of_makeRequest {session : Session} {profile : Profile}
    {statement : Statement} (h : (session.makeRequest profile statement).1 = .ok request) :
    ∃ inputs, inputs.shapes = session.shapes ∧
      statement.toRequest session.context inputs = .ok request := by
  unfold makeRequest at h
  cases hsettings : RequestSettings.ofProfile profile with
  | error error =>
    rw [hsettings] at h
    exact absurd h nofun
  | ok settings =>
    rw [hsettings] at h
    exact ⟨_, rfl, h⟩

end CqlWire
