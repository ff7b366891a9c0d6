import CqlWire.Proofs.Request.OfStatement
import CqlWire.Proofs.Session.Run

/-!
# The shapes of results along a run

The shape of the results of a prepared statement is the last one that was reported for it
(`Session.shapeOf_run`).  It is read when a request is made, and again when an answer without a
description of its columns is received.  Between the two any number of other answers may be
received, so such an answer is not always read with the shape that its request announced: it is read
with the last shape that was reported since (`Session.columns_of_undescribed_rows`).
-/

namespace CqlWire

/-! ### Reports -/

/-- The shape that a block of metadata reports for the results of a prepared statement, when it
comes with the rows of some statement: that has to be bound from the prepared statement, and the
block has to describe columns of known types and to give their shape a new id. -/
def MetadataBlock.reportFor? (metadata : MetadataBlock) (statement : Statement)
    (prepared : PreparedStatement) : Option ResultShape :=
  match statement, metadata.newResultMetadataId, metadata.columns with
  | .bound bound, some id, .ok columns =>
    if bound.prepared.handle = prepared.handle ∧ metadata.descriptions ≠ [] then
      some { id := some id, columns }
    else none
  | _, _, _ => none

/-- The shape that a step reports for the results of a prepared statement. -/
def SessionStep.reportFor? (prepared : PreparedStatement) : SessionStep → Option ResultShape
  | receive execution (.rows metadata _) => metadata.reportFor? execution.statement prepared
  | _ => none

/-- The last shape that a run reports for the results of a prepared statement. -/
def lastReport? (prepared : PreparedStatement) (steps : List SessionStep) : Option ResultShape :=
  (steps.filterMap (SessionStep.reportFor? prepared)).getLast?

theorem lastReport?_cons (prepared : PreparedStatement) (first : SessionStep)
    (steps : List SessionStep) :
    lastReport? prepared (first :: steps)
      = (lastReport? prepared steps).or (first.reportFor? prepared) := by
  unfold lastReport?
  cases h : first.reportFor? prepared with
  | none => rw [List.filterMap_cons_none h, Option.or_none]
  | some shape =>
    rw [List.filterMap_cons_some h, List.getLast?_cons]
    cases (steps.filterMap (SessionStep.reportFor? prepared)).getLast? <;> rfl

/-! ### One step -/

namespace ShapeRegister

theorem current_report (register : ShapeRegister) (reported prepared : PreparedStatement)
    (id : Bytes) (columns : Columns) :
    (register.report reported id columns).current prepared
      = if reported.handle = prepared.handle then { id := some id, columns }
        else register.current prepared := by
  unfold report current
  simp only [Std.ExtTreeMap.getElem?_insert, Nat.compare_eq_eq]
  split_ifs with h
  · rfl
  · rfl

/-- Rows change exactly the shape that their metadata reports. -/
theorem current_stateAfter_resultColumns (shapes : ShapeRegister) (statement : Statement)
    (metadata : MetadataBlock) (prepared : PreparedStatement) :
    (stateAfter shapes (resultColumns shapes statement metadata)).current prepared
      = (metadata.reportFor? statement prepared).getD (shapes.current prepared) := by
  unfold resultColumns MetadataBlock.reportFor?
  cases hdescriptions : metadata.descriptions with
  | nil =>
    -- Nothing is described, so nothing is reported, whatever id comes with it.
    rw [List.isEmpty_nil, if_pos rfl]
    cases statement with
    | simple simple => rfl
    | batch batch => rfl
    | bound bound =>
      cases metadata.newResultMetadataId <;> cases metadata.columns <;> simp [stateAfter]
  | cons first rest =>
    rw [List.isEmpty_cons, if_neg Bool.false_ne_true]
    -- The types are looked at before the register is.
    cases metadata.columns with
    | error fault =>
      cases statement <;> cases metadata.newResultMetadataId <;> rfl
    | ok columns =>
      cases metadata.newResultMetadataId with
      | none => cases statement <;> rfl
      | some id =>
        cases statement with
        | simple simple => rfl
        | batch batch => rfl
        | bound bound =>
          show (shapes.report bound.prepared id columns).current prepared = _
          rw [current_report]
          split_ifs with h <;> simp [h]

end ShapeRegister

namespace Session

theorem shapeOf_stateAfter_prepare (session : Session) (request : PrepareRequest)
    (response : PreparedAnswer) (prepared : PreparedStatement) :
    (stateAfter session (session.prepare request response)).shapeOf prepared
      = session.shapeOf prepared := by
  unfold prepare PrepareRequest.accept
  cases response.markers.columns with
  | error fault => rfl
  | ok markers =>
    cases response.result.columns with
    | error fault => rfl
    | ok columns => rfl

theorem shapeOf_stateAfter_receive (session : Session) (execution : Execution)
    (answer : ResultAnswer) (prepared : PreparedStatement) :
    (stateAfter session (session.receive execution answer)).shapeOf prepared
      = ((SessionStep.receive execution answer).reportFor? prepared).getD
        (session.shapeOf prepared) := by
  cases answer with
  | rows metadata data =>
    have hshapes := ShapeRegister.current_stateAfter_resultColumns session.shapes
      execution.statement metadata prepared
    rw [receive, ResultAnswer.toPage]
    cases h : resultColumns session.shapes execution.statement metadata with
    | error error =>
      rw [h] at hshapes
      exact hshapes
    | ok outcome =>
      rw [h] at hshapes
      exact hshapes
  | void => rfl
  | setKeyspace keyspace => rfl
  | prepared response => rfl
  | schemaChange change target keyspace object => rfl

/-- A step changes the shape of the results of a prepared statement exactly if it reports one. -/
theorem shapeOf_step (session : Session) (step : SessionStep) (prepared : PreparedStatement) :
    (session.step step).shapeOf prepared
      = (step.reportFor? prepared).getD (session.shapeOf prepared) := by
  cases step with
  | prepare request response => exact session.shapeOf_stateAfter_prepare request response prepared
  | make profile statement =>
    show (session.makeRequest profile statement).2.shapes.current prepared = _
    rw [makeRequest_shapes]
    rfl
  | receive execution answer => exact session.shapeOf_stateAfter_receive execution answer prepared

/-! ### Runs -/

/-- **The last report stands.**  After a run, the shape of the results of a prepared statement is
the last one that was reported for it, or else the one from before. -/
theorem shapeOf_run (session : Session) (steps : List SessionStep)
    (prepared : PreparedStatement) :
    (session.run steps).shapeOf prepared
      = (lastReport? prepared steps).getD (session.shapeOf prepared) := by
  induction steps generalizing session with
  | nil => rfl
  | cons first steps ih =>
    -- A report of the first step stands only where no later step reports.
    rw [run_cons, ih, shapeOf_step, lastReport?_cons]
    cases lastReport? prepared steps with
    | none => rfl
    | some shape => rfl

/-! ### From the request to its answer -/

/-- The execute request of a bound statement announces the current shape. -/
theorem exists_execute_of_makeRequest {session : Session} {profile : Profile}
    {bound : BoundStatement} {request : Request}
    (h : (session.makeRequest profile (.bound bound)).1 = .ok request) :
    ∃ execute, request = .execute execute ∧
      execute.resultMetadataId = (session.shapeOf bound.prepared).id ∧
      execute.options.skipMetadata = !(session.shapeOf bound.prepared).columns.isEmpty := by
  obtain ⟨inputs, hshapes, htranslated⟩ := exists_inputs_of_makeRequest h
  obtain ⟨-, rfl⟩ := BoundStatement.toRequest_eq_ok_iff.mp htranslated
  refine ⟨bound.executeOf inputs, rfl, ?_, ?_⟩
  · rw [shapeOf, ← hshapes]
    rfl
  · rw [shapeOf, ← hshapes]
    rfl

/-- Rows without a description of their columns are read with the current shape, which they do not
change. -/
theorem receive_undescribed_rows (session : Session) {execution : Execution}
    {bound : BoundStatement} {metadata : MetadataBlock} (data : List (List (Option Bytes)))
    (hexecution : execution.statement = .bound bound) (hmetadata : metadata.descriptions = []) :
    session.receive execution (.rows metadata data)
      = .ok ({ columns := (session.shapeOf bound.prepared).columns
               info := { execution with pagingState := metadata.pagingState }
               rows := data
               codecs := session.context.codecs
               version := session.context.version }, session) := by
  have hcolumns : resultColumns session.shapes execution.statement metadata
      = .ok ((session.shapeOf bound.prepared).columns, session.shapes) := by
    unfold resultColumns
    rw [hmetadata, hexecution]
    rfl
  rw [receive, ResultAnswer.toPage, hcolumns]
  rfl

/-- **Rows without a description of their columns are read with the last shape that was reported
since their request was made**, by whichever execution.  Only where there was no such report is that
the shape that the request announced. -/
theorem columns_of_undescribed_rows {session : Session} {profile : Profile}
    {bound : BoundStatement} {request : Request} {execution : Execution}
    {metadata : MetadataBlock}
    (hrequest : (session.makeRequest profile (.bound bound)).1 = .ok request)
    (hexecution : execution.statement = .bound bound) (hmetadata : metadata.descriptions = [])
    (between : List SessionStep) (data : List (List (Option Bytes))) :
    let announced := session.shapeOf bound.prepared
    let later := (session.makeRequest profile (.bound bound)).2.run between
    ∃ execute page, request = .execute execute ∧ execute.resultMetadataId = announced.id ∧
      execute.options.skipMetadata = !announced.columns.isEmpty ∧
      later.receive execution (.rows metadata data) = .ok (page, later) ∧
      page.columns = ((lastReport? bound.prepared between).getD announced).columns := by
  intro announced later
  obtain ⟨execute, hexecute, hid, hskip⟩ := exists_execute_of_makeRequest hrequest
  have hshape : later.shapeOf bound.prepared
      = (lastReport? bound.prepared between).getD announced := by
    -- Making the request changed no shape, so the run starts from the announced one.
    rw [shapeOf_run, shapeOf, makeRequest_shapes]
    rfl
  refine ⟨execute, _, hexecute, hid, hskip,
    later.receive_undescribed_rows data hexecution hmetadata, ?_⟩
  show (later.shapeOf bound.prepared).columns = _
  rw [hshape]

/-! ### A report between a request and its answer -/

/-- A prepared statement without markers, whose results had one column when it was prepared. -/
def oneColumn : PreparedStatement :=
  { handle := 0
    id := [10]
    query := "q"
    markers := []
    partitionKey := []
    preparedShape := { id := some [1], columns := [⟨"k", "t", "a", .native .int⟩] }
    boundDefaults := {}
    customPayload := ∅
    codecs := .standard
    version := .v5 }

/-- Two executions of one prepared statement, of which the second is answered first, with a new
shape of two columns. -/
def overtaking : List SessionStep :=
  let description (name : String) (index : Nat) : ColumnDescription :=
    ⟨"k", "t", name, index, .native 9⟩
  [.make .standard (.bound (.fresh oneColumn)),
    .receive { statement := .bound (.fresh oneColumn) }
      (.rows { descriptions := [description "a" 0, description "b" 1]
               columnCount := 2
               newResultMetadataId := some [2] } [])]

/-- The session in which the two executions run. -/
def overtaken : Session :=
  { context := { version := .v5 }, timestamps := .serverSide, shapes := { handles := 1 } }

/-- The answer to the first execution, which leaves out the column that its request announced, is
not read with that column. -/
theorem columns_ne_announced_of_overtaking :
    let bound := BoundStatement.fresh oneColumn
    let made := overtaken.makeRequest .standard (.bound bound)
    let later := made.2.run overtaking
    ∃ execute page, made.1 = .ok (.execute execute) ∧ execute.resultMetadataId = some [1] ∧
      execute.options.skipMetadata ∧
      later.receive { statement := .bound bound } (.rows { columnCount := 1 } [[some [7]]])
        = .ok (page, later) ∧
      page.columns ≠ (overtaken.shapeOf oneColumn).columns := by
  intro bound made later
  refine ⟨_, _, rfl, rfl, rfl, rfl, fun h => ?_⟩
  exact absurd (congrArg List.length h) (by decide)

/-- It is read with the two columns that the answer to the second one reported. -/
theorem columns_of_undescribed_rows_of_overtaking :
    let bound := BoundStatement.fresh oneColumn
    let later := (overtaken.makeRequest .standard (.bound bound)).2.run overtaking
    ∃ page, later.receive { statement := .bound bound }
        (.rows { columnCount := 1 } [[some [7]]]) = .ok (page, later) ∧
      page.columns = [⟨"k", "t", "a", .native .int⟩, ⟨"k", "t", "b", .native .int⟩] := by
  intro bound later
  have hrequest : (overtaken.makeRequest .standard (.bound bound)).1 = .ok _ := rfl
  have hexecution : ({ statement := .bound bound } : Execution).statement = .bound bound := rfl
  have hmetadata : ({ columnCount := 1 } : MetadataBlock).descriptions = [] := rfl
  obtain ⟨_, page, -, -, -, hpage, hcolumns⟩ :=
    columns_of_undescribed_rows hrequest hexecution hmetadata overtaking [[some [7]]]
  exact ⟨page, hpage, hcolumns⟩

end Session

end CqlWire
