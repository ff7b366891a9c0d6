import CqlWire.Proofs.Session.Prepare
import CqlWire.Proofs.Session.Receive
import CqlWire.Proofs.Session.Shapes
import CqlWire.Proofs.Statement.Bind

/-!
# Clients of a session

A client prepares statements, binds values to them, makes requests of statements and takes in their
answers, where it uses only what it has prepared and bound itself (`Client.ReachedBy`).  Along such
a run the handles tell its prepared statements apart, and no shape is reported for a handle before
it is given out (`Client.ReachedBy.sound`).
-/

namespace CqlWire

/-! ### Steps -/

/-- A user of a session, with the statements that were prepared and bound so far. -/
structure Client where
  session : Session
  prepared : List PreparedStatement := []
  bound : List BoundStatement := []

/-- What a client does in one step. -/
inductive ClientStep where
  /-- Something is done with the session. -/
  | act (step : SessionStep)
  /-- Values are bound to a prepared statement. -/
  | bind (prepared : PreparedStatement) (values : List Value)
  /-- Another context or another source of timestamps is used from now on. -/
  | reconnect (context : Context) (timestamps : TimestampSource)

/-- The prepared statement that a step makes. -/
def Session.prepared? (session : Session) : SessionStep → Option PreparedStatement
  | .prepare request response =>
    match session.prepare request response with
    | .ok (prepared, _) => some prepared
    | .error _ => none
  | _ => none

namespace Client

/-- A client that has done nothing yet. -/
def start (context : Context) (timestamps : TimestampSource) : Client :=
  { session := { context, timestamps } }

/-- The client after a step. -/
def step (client : Client) : ClientStep → Client
  | .act step =>
    { client with
      session := client.session.step step
      prepared := client.prepared ++ (client.session.prepared? step).toList }
  | .bind prepared values =>
    { client with
      bound := client.bound ++
        match BoundStatement.bind prepared values with
        | .ok bound => [bound]
        | .error _ => [] }
  | .reconnect context timestamps =>
    { client with session := { client.session with context, timestamps } }

/-- Whether a step fails. -/
def Fails (client : Client) : ClientStep → Prop
  | .act (.prepare request response) =>
    ∃ error, client.session.prepare request response = .error error
  | .act (.make profile statement) =>
    ∃ error, (client.session.makeRequest profile statement).1 = .error error
  | .act (.receive execution answer) =>
    ∃ error, client.session.receive execution answer = .error error
  | .bind prepared values => ∃ error, BoundStatement.bind prepared values = .error error
  | .reconnect _ _ => False

end Client

/-! ### Runs -/

/-- Whether a bound statement is a statement, or a child of it. -/
def Statement.Uses (statement : Statement) (part : BoundStatement) : Prop :=
  match statement with
  | simple _ => False
  | bound statement => statement = part
  | batch statement => .bound part ∈ statement.children

/-- Whether a statement uses only what the client has bound.  Values and attributes may have been
set since. -/
def Client.Owns (client : Client) (statement : Statement) : Prop :=
  ∀ part, statement.Uses part → ∃ bound ∈ client.bound, bound.prepared = part.prepared

/-- Whether a step uses only what the client has. -/
def Client.Allows (client : Client) : ClientStep → Prop
  | .act (.prepare _ _) => True
  | .act (.make _ statement) => client.Owns statement
  | .act (.receive execution _) => client.Owns execution.statement
  | .bind prepared _ => prepared ∈ client.prepared
  | .reconnect _ _ => True

/-- Whether a run of steps, each of which is allowed where it is taken, leads to a client. -/
inductive Client.ReachedBy : List ClientStep → Client → Prop
  | start (context : Context) (timestamps : TimestampSource) :
    ReachedBy [] (Client.start context timestamps)
  | step {steps : List ClientStep} {client : Client} {last : ClientStep}
      (hreached : ReachedBy steps client) (hallowed : client.Allows last) :
    ReachedBy (steps ++ [last]) (client.step last)

/-! ### Handles -/

namespace Session

variable {session : Session} {step : SessionStep} {prepared : PreparedStatement}

theorem prepared?_eq_some_iff :
    session.prepared? step = some prepared ↔
      ∃ request response later, step = .prepare request response ∧
        session.prepare request response = .ok (prepared, later) := by
  cases step with
  | make profile statement => exact iff_of_false nofun fun ⟨_, _, _, h, _⟩ => nomatch h
  | receive execution answer => exact iff_of_false nofun fun ⟨_, _, _, h, _⟩ => nomatch h
  | prepare request response =>
    rw [prepared?]
    constructor
    · intro hmade
      split at hmade
      · next later h =>
        obtain rfl := Option.some.inj hmade
        exact ⟨request, response, later, rfl, h⟩
      · exact nomatch hmade
    · rintro ⟨_, _, later, ⟨⟩, h⟩
      rw [h]

/-- Taking in an answer gives out no handles. -/
theorem handles_receive (session : Session) (execution : Execution) (answer : ResultAnswer) :
    (stateAfter session (session.receive execution answer)).shapes.handles
      = session.shapes.handles := by
  cases answer with
  | rows metadata data =>
    cases h : session.receive execution (.rows metadata data) with
    | error error => rfl
    | ok outcome =>
      obtain ⟨_, shapes, hread, -, hlater⟩ := receive_rows_eq_ok_iff.mp h
      rw [stateAfter, hlater]
      rcases resultColumns_eq_ok_iff.mp hread with ⟨-, rfl, -⟩ | ⟨-, -, hreport⟩
      · rfl
      · rcases hreport with ⟨-, rfl⟩ | ⟨bound, id, -, -, rfl⟩
        · rfl
        · rfl
  | void => rfl
  | setKeyspace keyspace => rfl
  | prepared response => rfl
  | schemaChange change target keyspace object => rfl

/-- One handle is given out for each prepared statement. -/
theorem handles_step (session : Session) (step : SessionStep) :
    (session.step step).shapes.handles
      = session.shapes.handles + (session.prepared? step).toList.length := by
  cases step with
  | make profile statement =>
    have hshapes := session.makeRequest_shapes profile statement
    exact congrArg ShapeRegister.handles hshapes
  | receive execution answer => exact session.handles_receive execution answer
  | prepare request response =>
    rw [prepared?, Session.step]
    cases h : session.prepare request response with
    | error error => rfl
    | ok outcome =>
      obtain ⟨_, _, -, -, -, hlater⟩ := prepare_eq_ok_iff.mp h
      rw [stateAfter, hlater]
      rfl

/-- A prepared statement gets the next handle. -/
theorem handle_of_prepared? (h : session.prepared? step = some prepared) :
    prepared.handle = session.shapes.handles := by
  obtain ⟨request, response, later, -, h⟩ := prepared?_eq_some_iff.mp h
  obtain ⟨_, _, -, -, rfl, -⟩ := prepare_eq_ok_iff.mp h
  rfl

end Session

/-! ### Reports -/

/-- The shape that a step reports for the results of a prepared statement. -/
def ClientStep.reportFor? (prepared : PreparedStatement) : ClientStep → Option ResultShape
  | .act step => step.reportFor? prepared
  | _ => none

namespace Client

variable {client : Client} {last : ClientStep} {prepared : PreparedStatement} {shape : ResultShape}

theorem shapeOf_step (client : Client) (last : ClientStep) (prepared : PreparedStatement) :
    (client.step last).session.shapeOf prepared
      = (last.reportFor? prepared).getD (client.session.shapeOf prepared) := by
  cases last with
  | act step => exact client.session.shapeOf_step step prepared
  | bind prepared values => rfl
  | reconnect context timestamps => rfl

theorem handles_le_step (client : Client) (last : ClientStep) :
    client.session.shapes.handles ≤ (client.step last).session.shapes.handles := by
  cases last with
  | act step =>
    show _ ≤ (client.session.step step).shapes.handles
    rw [Session.handles_step]
    exact Nat.le_add_right _ _
  | bind prepared values => exact le_rfl
  | reconnect context timestamps => exact le_rfl

/-- A step makes at most one prepared statement, with the next handle. -/
theorem mem_prepared_step (h : prepared ∈ (client.step last).prepared) :
    prepared ∈ client.prepared ∨ ∃ step, last = .act step ∧
      client.session.prepared? step = some prepared := by
  cases last with
  | act step =>
    rcases List.mem_append.mp h with h | h
    · exact .inl h
    · exact .inr ⟨step, rfl, Option.mem_toList.mp h⟩
  | bind prepared values => exact .inl h
  | reconnect context timestamps => exact .inl h

/-- A step that reports a shape takes in rows of a bound statement, with columns that are described,
all of known types, and with a new id. -/
theorem exists_of_reportFor?_eq_some (h : last.reportFor? prepared = some shape) :
    ∃ execution bound metadata data id columns,
      last = .act (.receive execution (.rows metadata data)) ∧
      execution.statement = .bound bound ∧ bound.prepared.handle = prepared.handle ∧
      metadata.descriptions ≠ [] ∧ metadata.columns = .ok columns ∧
      metadata.newResultMetadataId = some id ∧ shape = { id := some id, columns } := by
  cases last with
  | bind prepared values => exact nomatch h
  | reconnect context timestamps => exact nomatch h
  | act step =>
    rw [ClientStep.reportFor?] at h
    unfold SessionStep.reportFor? at h
    split at h
    · next execution metadata data =>
      unfold MetadataBlock.reportFor? at h
      split at h
      · next bound id columns hstatement hid hcolumns =>
        split_ifs at h with hreported
        obtain rfl := Option.some.inj h
        exact ⟨execution, bound, metadata, data, id, columns, rfl, hstatement, hreported.1,
          hreported.2, hcolumns, hid, rfl⟩
      · exact nomatch h
    · exact nomatch h

/-! ### What holds along a run -/

/-- What holds of a client after each step of a run. -/
structure Sound (client : Client) : Prop where
  /-- The handles of the prepared statements have been given out. -/
  handle_lt : ∀ prepared ∈ client.prepared, prepared.handle < client.session.shapes.handles
  /-- Prepared statements are told apart by their handles. -/
  handle_injective : ∀ left ∈ client.prepared, ∀ right ∈ client.prepared,
    left.handle = right.handle → left = right
  /-- Values were bound only to prepared statements of the client. -/
  prepared_of_bound : ∀ bound ∈ client.bound, bound.prepared ∈ client.prepared
  /-- Nothing was reported for handles that have not been given out. -/
  shapeOf_unused : ∀ prepared : PreparedStatement,
    client.session.shapes.handles ≤ prepared.handle →
      client.session.shapeOf prepared = prepared.preparedShape

namespace Sound

/-- Rows are taken in only for what the client has prepared. -/
theorem prepared_of_allows (hsound : client.Sound) {execution : Execution} {answer : ResultAnswer}
    {bound : BoundStatement} (hallowed : client.Allows (.act (.receive execution answer)))
    (hstatement : execution.statement = .bound bound) : bound.prepared ∈ client.prepared := by
  have huses : execution.statement.Uses bound := by
    rw [hstatement]
    rfl
  obtain ⟨known, hknown, hsame⟩ := hallowed bound huses
  exact hsame ▸ hsound.prepared_of_bound known hknown

/-- No shape is reported for a handle that has not been given out. -/
theorem reportFor?_eq_none (hsound : client.Sound) (hallowed : client.Allows last)
    (hunused : client.session.shapes.handles ≤ prepared.handle) :
    last.reportFor? prepared = none := by
  by_contra hreported
  obtain ⟨shape, hshape⟩ := Option.ne_none_iff_exists'.mp hreported
  obtain ⟨_, bound, _, _, _, _, rfl, hstatement, hhandle, -⟩ := exists_of_reportFor?_eq_some hshape
  have hlt := hsound.handle_lt _ (hsound.prepared_of_allows hallowed hstatement)
  omega

theorem start (context : Context) (timestamps : TimestampSource) :
    (Client.start context timestamps).Sound where
  handle_lt _ hprepared := absurd hprepared List.not_mem_nil
  handle_injective _ hleft := absurd hleft List.not_mem_nil
  prepared_of_bound _ hbound := absurd hbound List.not_mem_nil
  shapeOf_unused _ _ := rfl

/-- A step that is allowed keeps what holds. -/
theorem step (hsound : client.Sound) (hallowed : client.Allows last) :
    (client.step last).Sound where
  handle_lt := by
    intro prepared hprepared
    rcases mem_prepared_step hprepared with hknown | ⟨step, rfl, hmade⟩
    · exact (hsound.handle_lt prepared hknown).trans_le (client.handles_le_step last)
    · show prepared.handle < (client.session.step step).shapes.handles
      rw [Session.handle_of_prepared? hmade, Session.handles_step, hmade]
      exact Nat.lt_succ_self _
  handle_injective := by
    intro left hleft right hright hsame
    -- The handle of a new prepared statement is above all that have been given out.
    have hnew {known made : PreparedStatement} {step : SessionStep}
        (hknown : known ∈ client.prepared)
        (hmade : client.session.prepared? step = some made) : known.handle ≠ made.handle := by
      rw [Session.handle_of_prepared? hmade]
      exact (hsound.handle_lt known hknown).ne
    rcases mem_prepared_step hleft with hknown | ⟨step, rfl, hmade⟩
    · rcases mem_prepared_step hright with hknown' | ⟨step, rfl, hmade⟩
      · exact hsound.handle_injective left hknown right hknown' hsame
      · exact absurd hsame (hnew hknown hmade)
    · rcases mem_prepared_step hright with hknown | ⟨_, ⟨⟩, hmade'⟩
      · exact absurd hsame.symm (hnew hknown hmade)
      · exact Option.some.inj (hmade.symm.trans hmade')
  prepared_of_bound := by
    intro bound hbound
    cases last with
    | act step => exact List.mem_append_left _ (hsound.prepared_of_bound bound hbound)
    | reconnect context timestamps => exact hsound.prepared_of_bound bound hbound
    | bind prepared values =>
      rcases List.mem_append.mp hbound with hbound | hbound
      · exact hsound.prepared_of_bound bound hbound
      · split at hbound
        · next made hmade =>
          obtain rfl := List.mem_singleton.mp hbound
          obtain ⟨_, -, hof, -⟩ := BoundStatement.bind_eq_ok_iff.mp hmade
          exact hof ▸ hallowed
        · exact absurd hbound List.not_mem_nil
  shapeOf_unused := by
    intro prepared hunused
    have hunused' : client.session.shapes.handles ≤ prepared.handle :=
      (client.handles_le_step last).trans hunused
    rw [shapeOf_step, hsound.reportFor?_eq_none hallowed hunused']
    exact hsound.shapeOf_unused prepared hunused'

end Sound

theorem ReachedBy.sound {steps : List ClientStep} (h : ReachedBy steps client) : client.Sound := by
  induction h with
  | start context timestamps => exact .start context timestamps
  | step hreached hallowed ih => exact ih.step hallowed

end Client

end CqlWire
