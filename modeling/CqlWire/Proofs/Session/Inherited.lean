import CqlWire.Proofs.Frame.Failure
import CqlWire.Proofs.LastGiven
import CqlWire.Proofs.Request.Refusal
import CqlWire.Proofs.Session.Prepare
import CqlWire.Proofs.Statement.Slots

/-!
# What bound statements inherit

A request for a preparation has attributes of its own, and besides them what the statements bound
later start with.  The two are kept apart in every step of building the request
(`PrepareRequest.boundProfile_after` and its companions), and of the request's own attributes a
bound statement gets the keyspace alone (`PrepareRequest.attributes_of_yields`).

`PrepareRequest.inherited_of_yields` tells each attribute of a bound statement by the steps in which
its request was built, and that the keyspace is not sent with it.
-/

namespace CqlWire

/-! ### Building a request -/

/-- What a user adds to a request for a preparation in one step. -/
inductive PrepareStep where
  /-- An attribute of the request itself. -/
  | attributes (change : AttributeChange)
  | boundProfile (profile : String)
  | boundPayload (key : String) (content : Bytes)
  | boundIdempotence (idempotent : Bool)

namespace PrepareStep

/-- Whether a step is about the statements bound later. -/
def isBound : PrepareStep → Bool
  | attributes _ => false
  | boundProfile _ => true
  | boundPayload _ _ => true
  | boundIdempotence _ => true

theorem exists_eq_attributes {step : PrepareStep} (h : step.isBound = false) :
    ∃ change, step = attributes change := by
  cases step with
  | attributes change => exact ⟨change, rfl⟩
  | boundProfile profile => exact nomatch h
  | boundPayload key content => exact nomatch h
  | boundIdempotence idempotent => exact nomatch h

/-- What only steps for the bound statements give is the same after the same of these steps. -/
theorem lastGiven?_eq_of_filter_isBound_eq {β : Type} {given? : PrepareStep → Option β}
    {steps others : List PrepareStep} (h : ∀ change, given? (attributes change) = none)
    (hsteps : others.filter (·.isBound) = steps.filter (·.isBound)) :
    lastGiven? given? others = lastGiven? given? steps := by
  refine lastGiven?_eq_of_filter_eq (fun step hstep => ?_) hsteps
  obtain ⟨change, rfl⟩ := exists_eq_attributes hstep
  exact h change

/-- The profile that a step gives to the statements bound later. -/
def boundProfile? : PrepareStep → Option String
  | boundProfile profile => some profile
  | _ => none

/-- The content that a step gives to a key of what the statements bound later send along. -/
def boundContent? (key : String) : PrepareStep → Option Bytes
  | boundPayload key' content => valueFor? key (key', content)
  | _ => none

/-- The mark that a step gives to the statements bound later. -/
def boundIdempotent? : PrepareStep → Option Bool
  | boundIdempotence idempotent => some idempotent
  | _ => none

/-- The keyspace that a step gives to the request. -/
def keyspace? : PrepareStep → Option String
  | attributes (.keyspace keyspace) => some keyspace
  | _ => none

/-- The content that a step gives to a key of what the request sends along. -/
def content? (key : String) : PrepareStep → Option Bytes
  | attributes (.customPayload key' content) => valueFor? key (key', content)
  | _ => none

end PrepareStep

namespace PrepareRequest

/-- The request after a step. -/
def step (request : PrepareRequest) : PrepareStep → PrepareRequest
  | .attributes change => { request with attributes := request.attributes.change change }
  | .boundProfile profile => request.withBoundProfile profile
  | .boundPayload key content => request.withBoundPayload key content
  | .boundIdempotence idempotent => request.withBoundIdempotence idempotent

/-- The request after the steps of a run. -/
def after (request : PrepareRequest) (steps : List PrepareStep) : PrepareRequest :=
  steps.foldl step request

section After

variable (request : PrepareRequest) (steps : List PrepareStep)

theorem boundProfile_after :
    (request.after steps).boundProfile
      = (lastGiven? PrepareStep.boundProfile? steps).or request.boundProfile := by
  refine get_foldl boundProfile (fun request step => ?_) request steps
  cases step <;> rfl

theorem boundIdempotent_after :
    (request.after steps).boundIdempotent
      = (lastGiven? PrepareStep.boundIdempotent? steps).or request.boundIdempotent := by
  refine get_foldl boundIdempotent (fun request step => ?_) request steps
  cases step <;> rfl

theorem getElem?_boundPayload_after (key : String) :
    (request.after steps).boundPayload[key]?
      = (lastGiven? (PrepareStep.boundContent? key) steps).or request.boundPayload[key]? := by
  refine get_foldl (fun request => request.boundPayload[key]?) (fun request step => ?_)
    request steps
  cases step with
  | attributes change => rfl
  | boundProfile profile => rfl
  | boundPayload key' content => exact request.boundPayload.getElem?_insert (key', content) key
  | boundIdempotence idempotent => rfl

theorem keyspace_after :
    (request.after steps).attributes.keyspace
      = (lastGiven? PrepareStep.keyspace? steps).or request.attributes.keyspace := by
  refine get_foldl (fun request => request.attributes.keyspace) (fun request step => ?_)
    request steps
  cases step with
  | attributes change => cases change <;> rfl
  | boundProfile profile => rfl
  | boundPayload key content => rfl
  | boundIdempotence idempotent => rfl

theorem getElem?_customPayload_after (key : String) :
    (request.after steps).attributes.customPayload[key]?
      = (lastGiven? (PrepareStep.content? key) steps).or
        request.attributes.customPayload[key]? := by
  refine get_foldl (fun request => request.attributes.customPayload[key]?) (fun request step => ?_)
    request steps
  cases step with
  | attributes change =>
    cases change with
    | customPayload key' content =>
      exact request.attributes.customPayload.getElem?_insert (key', content) key
    | _ => rfl
  | boundProfile profile => rfl
  | boundPayload key content => rfl
  | boundIdempotence idempotent => rfl

end After

/-! ### From the request to the bound statement -/

/-- Whether a prepared statement is made of the answer to a request, in some session. -/
def Makes (request : PrepareRequest) (prepared : PreparedStatement) : Prop :=
  ∃ (session : Session) (response : PreparedAnswer) (later : Session),
    session.prepare request response = .ok (prepared, later)

end PrepareRequest

/-- Whether a statement was just bound from a prepared one, with or without values. -/
inductive PreparedStatement.Binds (prepared : PreparedStatement) : BoundStatement → Prop
  | fresh : Binds prepared (.fresh prepared)
  | bind {values : List Value} {bound : BoundStatement}
      (hbind : BoundStatement.bind prepared values = .ok bound) : Binds prepared bound

theorem PreparedStatement.Binds.attributes_eq {prepared : PreparedStatement}
    {bound : BoundStatement} (h : prepared.Binds bound) :
    bound.attributes = (BoundStatement.fresh prepared).attributes := by
  cases h with
  | fresh => rfl
  | bind hbind =>
    obtain ⟨-, -, -, hattributes, -⟩ := BoundStatement.bind_eq_ok_iff.mp hbind
    exact hattributes

namespace PrepareRequest

/-- Whether a statement was bound from a prepared one that is made of the answer to a request. -/
def Yields (request : PrepareRequest) (prepared : PreparedStatement) (bound : BoundStatement) :
    Prop :=
  request.Makes prepared ∧ prepared.Binds bound

variable {request : PrepareRequest} {prepared : PreparedStatement} {bound : BoundStatement}

theorem Makes.defaults_eq (h : request.Makes prepared) :
    prepared.boundDefaults = request.boundDefaults ∧
      prepared.customPayload = request.attributes.customPayload := by
  obtain ⟨session, response, later, hprepare⟩ := h
  obtain ⟨markers, columns, -, -, rfl, -⟩ := Session.prepare_eq_ok_iff.mp hprepare
  exact ⟨rfl, rfl⟩

/-- A bound statement gets the keyspace of the request, and otherwise what the request sets aside
for it. -/
theorem attributes_of_yields (h : request.Yields prepared bound) :
    bound.attributes =
      { keyspace := request.attributes.keyspace
        customPayload := request.boundPayload
        idempotent := request.boundIdempotent
        profile := request.boundProfile } := by
  obtain ⟨hmakes, hbinds⟩ := h
  obtain ⟨hdefaults, -⟩ := hmakes.defaults_eq
  rw [hbinds.attributes_eq, BoundStatement.fresh, hdefaults]
  rfl

theorem customPayload_of_yields (h : request.Yields prepared bound) :
    prepared.customPayload = request.attributes.customPayload :=
  h.1.defaults_eq.2

end PrepareRequest

/-! ### Executing a bound statement -/

namespace Session

variable {profile : Profile} {bound : BoundStatement} {request : Request}

/-- A bound statement is executed without a keyspace. -/
theorem exists_execute_of_bound {session : Session}
    (h : (session.makeRequest profile (.bound bound)).1 = .ok request) :
    ∃ execute, request = .execute execute ∧ execute.options.keyspace = none := by
  obtain ⟨inputs, -, htranslated⟩ := exists_inputs_of_makeRequest h
  obtain ⟨-, rfl⟩ := BoundStatement.toRequest_eq_ok_iff.mp htranslated
  exact ⟨bound.executeOf inputs, rfl, rfl⟩

/-- A keyspace is no reason to refuse the request of a bound statement. -/
theorem makeRequest_bound_ne_requestKeyspace (session : Session) (profile : Profile)
    (bound : BoundStatement) (version : ProtocolVersion) :
    (session.makeRequest profile (.bound bound)).1
      ≠ .error (.invalidArgument (.requestKeyspace version)) := by
  intro hrefused
  have hfails : FailsBy (session.makeRequest profile (.bound bound)).1 _ :=
    failsBy_makeRequest profile fun _ => bound.failsBy_toRequest
  have hfirst := (hfails _).mp hrefused
  obtain ⟨reason, hreason, happlies⟩ := hfirst.exists_mem
  rcases List.mem_append.mp hreason with hprofile | hstatement
  · obtain ⟨defect, -, rfl⟩ := List.mem_map.mp hprofile
    obtain ⟨cause, -, hcause⟩ := happlies
    exact nomatch hcause
  · obtain rfl := List.mem_singleton.mp hstatement
    obtain ⟨-, index, -, hunset⟩ := happlies
    exact nomatch hunset

end Session

/-- A frame whose request names no keyspace does not fail for a keyspace. -/
theorem Frame.encode_ne_requestKeyspace {frame : Frame} (h : frame.request.keyspace? = none)
    (features : FeatureTable) (version : ProtocolVersion) :
    frame.encode features ≠ .error (.unsupported .requestKeyspace version) := by
  intro hfailed
  rcases Frame.failsOnly_encode hfailed with (hlong | ⟨hunset, -⟩) | ⟨-, -, hkeyspace⟩
  · exact hlong
  · exact nomatch hunset
  · rw [h] at hkeyspace
    exact nomatch hkeyspace

namespace PrepareRequest

/-- A bound statement agrees on everything but the keyspace with one whose request was built with
the same steps for the bound statements. -/
theorem attributes_eq_of_filter_eq {start : PrepareRequest} {query : String}
    {attributes : Attributes} {steps others : List PrepareStep}
    {prepared other : PreparedStatement} {bound otherBound : BoundStatement}
    (hsteps : others.filter (·.isBound) = steps.filter (·.isBound))
    (hyields : (start.after steps).Yields prepared bound)
    (hother : (after { start with query, attributes } others).Yields other otherBound) :
    otherBound.attributes
      = { bound.attributes with keyspace := otherBound.attributes.keyspace } := by
  have hprofile : lastGiven? PrepareStep.boundProfile? others
      = lastGiven? PrepareStep.boundProfile? steps :=
    PrepareStep.lastGiven?_eq_of_filter_isBound_eq (fun _ => rfl) hsteps
  have hidempotent : lastGiven? PrepareStep.boundIdempotent? others
      = lastGiven? PrepareStep.boundIdempotent? steps :=
    PrepareStep.lastGiven?_eq_of_filter_isBound_eq (fun _ => rfl) hsteps
  have hcontent (key : String) : lastGiven? (PrepareStep.boundContent? key) others
      = lastGiven? (PrepareStep.boundContent? key) steps :=
    PrepareStep.lastGiven?_eq_of_filter_isBound_eq (fun _ => rfl) hsteps
  have hpayload : (after { start with query, attributes } others).boundPayload
      = (start.after steps).boundPayload := by
    refine Std.ExtTreeMap.ext_getElem? fun key => ?_
    rw [getElem?_boundPayload_after, getElem?_boundPayload_after, hcontent]
  rw [attributes_of_yields hyields, attributes_of_yields hother, boundProfile_after,
    boundProfile_after, boundIdempotent_after, boundIdempotent_after, hprofile, hidempotent,
    hpayload]

/-- **A bound statement inherits what was meant for it, and nothing else.**

Where the request was made of a simple statement, a statement bound later has the attributes of the
simple one, but neither its timestamp nor its paging state.  Where the request was built step by
step, each attribute was given by the last step that is about it: the profile, the mark and what is
sent along by a step for the bound statements, the keyspace by one for the request itself; and the
prepared statement keeps what the request itself sends along.

So two requests with the same steps for the bound statements agree on all attributes but the
keyspace, whatever else they are; two requests with one keyspace agree on the keyspace; and two that
send the same along agree on what the prepared statement keeps.

A bound statement is executed without a keyspace, also where it has one, so that neither its request
nor its frame ever fails for it. -/
theorem inherited_of_yields (prepared : PreparedStatement) (bound : BoundStatement) :
    (∀ statement, (ofStatement statement).Yields prepared bound →
      bound.attributes =
        { statement.attributes with timestamp := Timestamp.unset, pagingState := none }) ∧
    (∀ (start : PrepareRequest) (steps : List PrepareStep),
      (start.after steps).Yields prepared bound →
      bound.attributes.profile
        = (lastGiven? PrepareStep.boundProfile? steps).or start.boundProfile ∧
      bound.attributes.idempotent
        = (lastGiven? PrepareStep.boundIdempotent? steps).or start.boundIdempotent ∧
      (∀ key, bound.attributes.customPayload[key]?
        = (lastGiven? (PrepareStep.boundContent? key) steps).or start.boundPayload[key]?) ∧
      bound.attributes.keyspace
        = (lastGiven? PrepareStep.keyspace? steps).or start.attributes.keyspace ∧
      bound.attributes.timestamp = Timestamp.unset ∧ bound.attributes.pagingState = none ∧
      (∀ key, prepared.customPayload[key]?
        = (lastGiven? (PrepareStep.content? key) steps).or
          start.attributes.customPayload[key]?) ∧
      ∀ query attributes others other otherBound,
        others.filter (·.isBound) = steps.filter (·.isBound) →
        (after { start with query, attributes } others).Yields other otherBound →
        otherBound.attributes
          = { bound.attributes with keyspace := otherBound.attributes.keyspace }) ∧
    (∀ request request' other otherBound, Yields request prepared bound →
      Yields request' other otherBound →
      (request'.attributes.keyspace = request.attributes.keyspace →
        otherBound.attributes.keyspace = bound.attributes.keyspace) ∧
      (request'.attributes.customPayload = request.attributes.customPayload →
        other.customPayload = prepared.customPayload)) ∧
    ∀ (session : Session) (profile : Profile),
      (∀ version, (session.makeRequest profile (.bound bound)).1
        ≠ .error (.invalidArgument (.requestKeyspace version))) ∧
      ∀ request, (session.makeRequest profile (.bound bound)).1 = .ok request →
        (∃ execute, request = .execute execute ∧ execute.options.keyspace = none) ∧
        ∀ features version, (session.frame (.bound bound) request).encode features
          ≠ .error (.unsupported .requestKeyspace version) := by
  refine ⟨?_, ?_, ?_, ?_⟩
  · intro statement hyields
    rw [attributes_of_yields hyields]
    rfl
  · intro start steps hyields
    have hattributes := attributes_of_yields hyields
    have hkept := customPayload_of_yields hyields
    refine ⟨?_, ?_, ?_, ?_, by rw [hattributes], by rw [hattributes], ?_, ?_⟩
    · rw [hattributes]
      exact start.boundProfile_after steps
    · rw [hattributes]
      exact start.boundIdempotent_after steps
    · rw [hattributes]
      exact start.getElem?_boundPayload_after steps
    · rw [hattributes]
      exact start.keyspace_after steps
    · rw [hkept]
      exact start.getElem?_customPayload_after steps
    · intro query attributes others other otherBound hsteps hother
      exact attributes_eq_of_filter_eq hsteps hyields hother
  · intro request request' other otherBound hyields hother
    rw [attributes_of_yields hyields, attributes_of_yields hother,
      customPayload_of_yields hyields, customPayload_of_yields hother]
    exact ⟨id, id⟩
  · intro session profile
    refine ⟨session.makeRequest_bound_ne_requestKeyspace profile bound, fun request hmade => ?_⟩
    obtain ⟨execute, rfl, hkeyspace⟩ := Session.exists_execute_of_bound hmade
    exact ⟨⟨execute, rfl, hkeyspace⟩, Frame.encode_ne_requestKeyspace hkeyspace⟩

/-- A statement with all attributes. -/
def attributed : SimpleStatement where
  query := "q"
  attributes := {
    keyspace := some "k"
    timestamp := 5
    pagingState := some [1]
    customPayload := CustomPayload.after ∅ [("a", [1])]
    idempotent := some true
    profile := some "p" }

/-- Steps of both kinds in turn, some of which set again what was set before. -/
def mixedSteps : List PrepareStep :=
  [.boundProfile "x", .attributes (.profile "y"), .boundPayload "a" [1],
    .attributes (.customPayload "a" [9]), .attributes (.keyspace "k"), .boundPayload "a" [2],
    .boundIdempotence true, .attributes (.idempotence false), .attributes (.timestamp 7),
    .attributes (.pagingState [1])]

/-- The prepared statement that a request gets on version 4 if there are no markers. -/
def preparedOnV4 (request : PrepareRequest) : PreparedStatement :=
  request.preparedOf .standard .v4 { id := [1] } 0 [] []

theorem yields_preparedOnV4 (request : PrepareRequest) :
    request.Yields request.preparedOnV4 (.fresh request.preparedOnV4) :=
  ⟨⟨{ context := { version := .v4 }, timestamps := .serverSide }, { id := [1] }, _, rfl⟩, .fresh⟩

/-- Neither a timestamp nor a paging state is inherited.  With the steps for the bound statements
alone the same is inherited but the keyspace; and the keyspace does not stop a bound statement on a
version that has no keyspaces. -/
theorem inherited_of_yields_of_mixedSteps :
    let request := after { query := "q" } mixedSteps
    let prepared := preparedOnV4 request
    let bound := BoundStatement.fresh prepared
    let few := preparedOnV4 (after { query := "q" } (mixedSteps.filter (·.isBound)))
    let session : Session := { context := { version := .v4 }, timestamps := .serverSide }
    (BoundStatement.fresh (preparedOnV4 (ofStatement attributed))).attributes =
        { attributed.attributes with timestamp := Timestamp.unset, pagingState := none } ∧
      bound.attributes.profile = some "x" ∧ bound.attributes.idempotent = some true ∧
      bound.attributes.customPayload["a"]? = some [2] ∧ prepared.customPayload["a"]? = some [9] ∧
      bound.attributes.keyspace = some "k" ∧
      (BoundStatement.fresh few).attributes = { bound.attributes with keyspace := none } ∧
      ∃ execute, (session.makeRequest .standard (.bound bound)).1 = .ok (.execute execute) ∧
        execute.options.keyspace = none := by
  intro request prepared bound few session
  have hyields : request.Yields prepared bound := yields_preparedOnV4 request
  obtain ⟨hsimple, -⟩ := inherited_of_yields _ (.fresh (preparedOnV4 (ofStatement attributed)))
  obtain ⟨-, hsteps, -, hexecute⟩ := inherited_of_yields prepared bound
  obtain ⟨hprofile, hidempotent, hcontent, hkeyspace, -, -, hkept, hsame⟩ := hsteps _ _ hyields
  obtain ⟨⟨execute, hmade, hnone⟩, -⟩ := (hexecute session .standard).2 _ rfl
  refine ⟨hsimple attributed (yields_preparedOnV4 _), hprofile, hidempotent, hcontent "a",
    hkept "a", hkeyspace, ?_, execute, congrArg Except.ok hmade, hnone⟩
  exact hsame "q" {} _ few _ (by rw [List.filter_filter]; simp) (yields_preparedOnV4 _)

end PrepareRequest

end CqlWire
