import CqlWire.Proofs.Session.Client

/-!
# Refreshes of the shapes of results

The shape of the results of a prepared statement is a register that is only ever written as a whole,
by a refresh: rows for a statement that was bound from it, with columns of known types and a new id.
After any run the register holds what the last refresh wrote, or what the answer to the preparation
said if there was none; and each execute request, whenever its statement was bound, announces what
the register holds (`Client.shapeOf_reachedBy`).
-/

namespace CqlWire

variable {steps : List ClientStep} {client : Client} {last : ClientStep}
  {prepared : PreparedStatement} {shape : ResultShape}

/-! ### What a register should hold -/

/-- Whether a step refreshes the shape of the results of a prepared statement: rows for a statement
bound from it arrive, with columns that are described, all of known types, and with a new id. -/
inductive ClientStep.Refreshes (prepared : PreparedStatement) : ClientStep → ResultShape → Prop
  | rows {execution : Execution} {bound : BoundStatement} {metadata : MetadataBlock} {id : Bytes}
      {columns : Columns} {data : List (List (Option Bytes))}
      (hstatement : execution.statement = .bound bound) (hprepared : bound.prepared = prepared)
      (hdescribed : metadata.descriptions ≠ []) (hcolumns : metadata.columns = .ok columns)
      (hid : metadata.newResultMetadataId = some id) :
    Refreshes prepared (.act (.receive execution (.rows metadata data))) { id := some id, columns }

/-- Whether no step of a run refreshes the shape. -/
def NeverRefreshed (prepared : PreparedStatement) (steps : List ClientStep) : Prop :=
  ∀ step ∈ steps, ∀ shape, ¬ step.Refreshes prepared shape

/-- Whether a shape is the one that the last refresh in a run wrote. -/
def IsLastRefresh (prepared : PreparedStatement) (steps : List ClientStep) (shape : ResultShape) :
    Prop :=
  ∃ earlier step later, steps = earlier ++ step :: later ∧ step.Refreshes prepared shape ∧
    NeverRefreshed prepared later

/-- Whether a shape is the one that the answer to the preparation described. -/
def IsPreparedShape (prepared : PreparedStatement) (steps : List ClientStep)
    (shape : ResultShape) : Prop :=
  ∃ earlier request response later client session,
    steps = earlier ++ .act (.prepare request response) :: later ∧
    Client.ReachedBy earlier client ∧
    client.session.prepare request response = .ok (prepared, session) ∧
    shape.id = response.resultMetadataId ∧ response.result.columns = .ok shape.columns

theorem neverRefreshed_snoc_iff :
    NeverRefreshed prepared (steps ++ [last]) ↔
      NeverRefreshed prepared steps ∧ ∀ shape, ¬ last.Refreshes prepared shape := by
  simp only [NeverRefreshed, List.forall_mem_append, List.forall_mem_singleton]

theorem IsLastRefresh.snoc (h : IsLastRefresh prepared steps shape)
    (hlast : ∀ shape, ¬ last.Refreshes prepared shape) :
    IsLastRefresh prepared (steps ++ [last]) shape := by
  obtain ⟨earlier, step, later, rfl, hrefreshes, hlater⟩ := h
  exact ⟨earlier, step, later ++ [last], List.append_assoc _ _ _, hrefreshes,
    neverRefreshed_snoc_iff.mpr ⟨hlater, hlast⟩⟩

theorem IsPreparedShape.snoc (h : IsPreparedShape prepared steps shape) (last : ClientStep) :
    IsPreparedShape prepared (steps ++ [last]) shape := by
  obtain ⟨earlier, request, response, later, client, session, rfl, hprepared⟩ := h
  exact ⟨earlier, request, response, later ++ [last], client, session, List.append_assoc _ _ _,
    hprepared⟩

namespace Client

/-! ### One step -/

/-- The steps that report a shape are the refreshes. -/
theorem Sound.reportFor?_eq_some_iff (hsound : client.Sound) (hallowed : client.Allows last)
    (hprepared : prepared ∈ client.prepared) :
    last.reportFor? prepared = some shape ↔ last.Refreshes prepared shape := by
  constructor
  · intro h
    obtain ⟨_, bound, _, _, _, _, rfl, hstatement, hhandle, hdescribed, hcolumns, hid, rfl⟩ :=
      exists_of_reportFor?_eq_some h
    -- Handles tell the prepared statements of a client apart.
    have hsame : bound.prepared = prepared := hsound.handle_injective _
      (hsound.prepared_of_allows hallowed hstatement) _ hprepared hhandle
    exact .rows hstatement hsame hdescribed hcolumns hid
  · rintro ⟨hstatement, rfl, hdescribed, hcolumns, hid⟩
    show MetadataBlock.reportFor? _ _ _ = _
    unfold MetadataBlock.reportFor?
    rw [hstatement, hid, hcolumns]
    exact if_pos ⟨rfl, hdescribed⟩

/-- A refresh writes its shape. -/
theorem Sound.shapeOf_step_of_refreshes (hsound : client.Sound) (hallowed : client.Allows last)
    (hprepared : prepared ∈ client.prepared) (hrefreshes : last.Refreshes prepared shape) :
    (client.step last).session.shapeOf prepared = shape := by
  rw [shapeOf_step, (hsound.reportFor?_eq_some_iff hallowed hprepared).mpr hrefreshes]
  rfl

/-- Any other step leaves the shape as it is. -/
theorem Sound.shapeOf_step_of_not_refreshes (hsound : client.Sound)
    (hallowed : client.Allows last) (hprepared : prepared ∈ client.prepared)
    (hnone : ∀ shape, ¬ last.Refreshes prepared shape) :
    (client.step last).session.shapeOf prepared = client.session.shapeOf prepared := by
  have hreport : last.reportFor? prepared = none := by
    by_contra hreported
    obtain ⟨shape, hshape⟩ := Option.ne_none_iff_exists'.mp hreported
    exact hnone shape ((hsound.reportFor?_eq_some_iff hallowed hprepared).mp hshape)
  rw [shapeOf_step, hreport]
  rfl

/-- A refresh does not fail. -/
theorem not_fails_of_refreshes (hrefreshes : last.Refreshes prepared shape) :
    ¬ client.Fails last := by
  intro hfails
  cases hrefreshes with
  | rows hstatement hprepared hdescribed hcolumns hid =>
    obtain ⟨error, herror⟩ := hfails
    obtain ⟨outcome, hok⟩ := Session.exists_receive_rows_eq_ok hstatement hcolumns
    exact nomatch hok.symm.trans herror

/-! ### Runs -/

theorem mem_prepared_step_of_mem (h : prepared ∈ client.prepared) (last : ClientStep) :
    prepared ∈ (client.step last).prepared := by
  cases last with
  | act step => exact List.mem_append_left _ h
  | bind prepared values => exact h
  | reconnect context timestamps => exact h

/-- Only what was prepared before can be refreshed. -/
theorem ReachedBy.mem_prepared_of_refreshes (h : ReachedBy steps client) {step : ClientStep}
    (hstep : step ∈ steps) (hrefreshes : step.Refreshes prepared shape) :
    prepared ∈ client.prepared := by
  induction h with
  | start context timestamps => exact absurd hstep List.not_mem_nil
  | @step steps client last hreached hallowed ih =>
    rcases List.mem_append.mp hstep with hstep | hstep
    · exact mem_prepared_step_of_mem (ih hstep) last
    · obtain rfl := List.mem_singleton.mp hstep
      cases hrefreshes with
      | rows hstatement hprepared hdescribed hcolumns hid =>
        have hknown := hreached.sound.prepared_of_allows hallowed hstatement
        exact mem_prepared_step_of_mem (hprepared ▸ hknown) _

/-- What was just prepared has the shape from its answer. -/
theorem ReachedBy.isPreparedShape_of_prepared? (h : ReachedBy steps client) {step : SessionStep}
    (hallowed : client.Allows (.act step)) (hmade : client.session.prepared? step = some prepared) :
    NeverRefreshed prepared (steps ++ [.act step]) ∧
      IsPreparedShape prepared (steps ++ [.act step])
        ((client.step (.act step)).session.shapeOf prepared) := by
  have hunused : client.session.shapes.handles ≤ prepared.handle :=
    (Session.handle_of_prepared? hmade).ge
  obtain ⟨request, response, later, rfl, haccepted⟩ := Session.prepared?_eq_some_iff.mp hmade
  refine ⟨neverRefreshed_snoc_iff.mpr ⟨fun step hstep shape hrefreshes => ?_, nofun⟩, ?_⟩
  · have hlt := h.sound.handle_lt prepared (h.mem_prepared_of_refreshes hstep hrefreshes)
    omega
  · refine ⟨steps, request, response, [], client, later, rfl, h, haccepted, ?_⟩
    rw [shapeOf_step, h.sound.reportFor?_eq_none hallowed hunused, Option.getD_none,
      h.sound.shapeOf_unused prepared hunused]
    obtain ⟨markers, columns, -, hcolumns, rfl, -⟩ := Session.prepare_eq_ok_iff.mp haccepted
    exact ⟨rfl, hcolumns⟩

/-- After a run, the register of a prepared statement holds what the last refresh wrote, or what the
answer to the preparation said. -/
theorem ReachedBy.isLastRefresh_or_isPreparedShape (h : ReachedBy steps client)
    (hprepared : prepared ∈ client.prepared) :
    IsLastRefresh prepared steps (client.session.shapeOf prepared) ∨
      NeverRefreshed prepared steps ∧
        IsPreparedShape prepared steps (client.session.shapeOf prepared) := by
  induction h with
  | start context timestamps => exact absurd hprepared List.not_mem_nil
  | @step steps client last hreached hallowed ih =>
    rcases mem_prepared_step hprepared with hknown | ⟨step, rfl, hmade⟩
    -- Of what was known before, the last step either writes the register or leaves it alone.
    · by_cases hrefreshes : ∃ shape, last.Refreshes prepared shape
      · obtain ⟨shape, hrefreshes⟩ := hrefreshes
        rw [hreached.sound.shapeOf_step_of_refreshes hallowed hknown hrefreshes]
        exact .inl ⟨steps, last, [], rfl, hrefreshes, fun _ h => absurd h List.not_mem_nil⟩
      · have hnone := not_exists.mp hrefreshes
        rw [hreached.sound.shapeOf_step_of_not_refreshes hallowed hknown hnone]
        rcases ih hknown with hlast | ⟨hnever, hshape⟩
        · exact .inl (hlast.snoc hnone)
        · exact .inr ⟨neverRefreshed_snoc_iff.mpr ⟨hnever, hnone⟩, hshape.snoc last⟩
    · exact .inr (hreached.isPreparedShape_of_prepared? hallowed hmade)

/-- **The shape of results is a register that the last refresh writes.**  After a run, the shape of
each prepared statement is that of its last refresh, or that of the answer to its preparation if
there was none.  A refresh succeeds and writes its shape; any other step and any step that fails
leaves the shape as it is.  Each execute request of a statement bound from the prepared statement
announces the current shape. -/
theorem shapeOf_reachedBy (hreached : ReachedBy steps client)
    (hprepared : prepared ∈ client.prepared) :
    let current := client.session.shapeOf prepared
    (IsLastRefresh prepared steps current ∨
      NeverRefreshed prepared steps ∧ IsPreparedShape prepared steps current) ∧
    (∀ next, client.Allows next →
      (∀ shape, next.Refreshes prepared shape →
        ¬ client.Fails next ∧ (client.step next).session.shapeOf prepared = shape) ∧
      (client.Fails next ∨ (∀ shape, ¬ next.Refreshes prepared shape) →
        (client.step next).session.shapeOf prepared = current)) ∧
    ∀ (profile : Profile) (bound : BoundStatement) (request : Request), bound.prepared = prepared →
      (client.session.makeRequest profile (.bound bound)).1 = .ok request →
        ∃ execute, request = .execute execute ∧ execute.resultMetadataId = current.id ∧
          (execute.options.skipMetadata ↔ current.columns ≠ []) := by
  intro current
  refine ⟨hreached.isLastRefresh_or_isPreparedShape hprepared, fun next hallowed => ⟨?_, ?_⟩, ?_⟩
  · intro shape hrefreshes
    exact ⟨not_fails_of_refreshes hrefreshes,
      hreached.sound.shapeOf_step_of_refreshes hallowed hprepared hrefreshes⟩
  · intro hother
    have hnone : ∀ shape, ¬ next.Refreshes prepared shape := by
      rcases hother with hfails | hnone
      · exact fun shape hrefreshes => not_fails_of_refreshes hrefreshes hfails
      · exact hnone
    exact hreached.sound.shapeOf_step_of_not_refreshes hallowed hprepared hnone
  · rintro profile bound request rfl hmade
    obtain ⟨execute, hexecute, hid, hskip⟩ := Session.exists_execute_of_makeRequest hmade
    refine ⟨execute, hexecute, hid, ?_⟩
    rw [hskip, Bool.not_eq_true', List.isEmpty_eq_false_iff]

/-! ### A refresh after binding -/

/-- The answer to a preparation whose results have one column. -/
def narrowAnswer : PreparedAnswer :=
  { id := [10]
    resultMetadataId := some [1]
    result := { descriptions := [⟨"k", "t", "a", 0, .native 9⟩], columnCount := 1 } }

/-- The prepared statement of this answer. -/
def narrow : PreparedStatement :=
  PrepareRequest.preparedOf { query := "q" } .standard .v5 narrowAnswer 0 []
    [⟨"k", "t", "a", .native .int⟩]

/-- Rows of two columns, under a new id. -/
def widerRows : ClientStep :=
  .act (.receive { statement := .bound (.fresh narrow) }
    (.rows { descriptions := [⟨"k", "t", "a", 0, .native 9⟩, ⟨"k", "t", "b", 1, .native 9⟩]
             columnCount := 2
             newResultMetadataId := some [2] } []))

/-- A statement is prepared and bound, a request is made of it, and its rows are wider than those
that were described when it was prepared. -/
def widening : List ClientStep :=
  [.act (.prepare { query := "q" } narrowAnswer), .bind narrow [],
    .act (.make .standard (.bound (.fresh narrow))), widerRows]

theorem reachedBy_widening :
    ReachedBy widening (widening.foldl step (start { version := .v5 } .serverSide)) := by
  have howns (client : Client) (hbound : .fresh narrow ∈ client.bound) :
      client.Owns (.bound (.fresh narrow)) := fun _ hpart => ⟨_, hbound, hpart ▸ rfl⟩
  have hprepare : ReachedBy (widening.take 1)
      ((widening.take 1).foldl step (start { version := .v5 } .serverSide)) :=
    .step (.start _ _) trivial
  have hbind : ReachedBy (widening.take 2)
      ((widening.take 2).foldl step (start { version := .v5 } .serverSide)) :=
    .step hprepare (List.mem_singleton_self narrow)
  have hmake : ReachedBy (widening.take 3)
      ((widening.take 3).foldl step (start { version := .v5 } .serverSide)) :=
    .step hbind (howns _ (List.mem_singleton_self _))
  exact .step hmake (howns _ (List.mem_singleton_self _))

/-- The register holds the wider shape after this run, and the next request of the statement that
was bound before announces it. -/
theorem shapeOf_reachedBy_of_widening :
    let client := widening.foldl step (start { version := .v5 } .serverSide)
    ReachedBy widening client ∧ narrow ∈ client.prepared ∧
      IsLastRefresh narrow widening (client.session.shapeOf narrow) ∧
      ∃ execute, (client.session.makeRequest .standard (.bound (.fresh narrow))).1
          = .ok (.execute execute) ∧
        execute.resultMetadataId = some [2] ∧ execute.options.skipMetadata := by
  intro client
  have hprepared : narrow ∈ client.prepared := List.mem_singleton_self narrow
  obtain ⟨hholds, -, hannounced⟩ := shapeOf_reachedBy reachedBy_widening hprepared
  have hrefreshes : widerRows.Refreshes narrow _ := .rows rfl rfl (List.cons_ne_nil _ _) rfl rfl
  have hlast : IsLastRefresh narrow widening (client.session.shapeOf narrow) :=
    hholds.resolve_right fun ⟨hnever, _⟩ => hnever widerRows (by simp [widening]) _ hrefreshes
  obtain ⟨request, hmade⟩ : ∃ request,
      (client.session.makeRequest .standard (.bound (.fresh narrow))).1 = .ok request := ⟨_, rfl⟩
  obtain ⟨execute, rfl, hid, hskip⟩ := hannounced .standard (.fresh narrow) request rfl hmade
  have hshape : client.session.shapeOf narrow
      = { id := some [2]
          columns := [⟨"k", "t", "a", .native .int⟩, ⟨"k", "t", "b", .native .int⟩] } := rfl
  rw [hshape] at hid hskip
  exact ⟨reachedBy_widening, hprepared, hlast, execute, hmade, hid,
    hskip.mpr (List.cons_ne_nil _ _)⟩

end Client

end CqlWire
