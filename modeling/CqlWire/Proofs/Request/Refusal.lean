import CqlWire.Proofs.Codec.RoundTrip
import CqlWire.Proofs.Config.Profile
import CqlWire.Proofs.Request.OfStatement

/-!
# Statements that have no request

A request is refused for a setting that the profile does not give, or for what its statement asks of
the protocol version.  The reasons are listed in the order in which they are looked at
(`Profile.refusals`, `Statement.refusals`), and a request is refused exactly for the first one that
applies (`Session.makeRequest_eq_error_iff_isFirst`).  With the standard registry no value is a
reason by itself, since each value can be encoded by its own kind.
-/

namespace CqlWire

variable {context : Context} {inputs : RequestInputs}

/-! ### Values -/

theorem Value.exists_encodePositional_eq_ok (hcodecs : context.codecs = .standard)
    (values : List Value) :
    ∃ encoded, Value.encodePositional context.codecs context.version values = .ok encoded := by
  rw [hcodecs]
  exact exists_mapM_eq_ok fun value _ => value.exists_encode_eq_ok context.version

theorem Value.exists_encodeNamed_eq_ok (hcodecs : context.codecs = .standard)
    (values : List (String × Value)) :
    ∃ encoded, Value.encodeNamed context.codecs context.version values = .ok encoded := by
  rw [hcodecs]
  refine exists_mapM_eq_ok fun ⟨name, value⟩ _ => ?_
  obtain ⟨encoded, hencoded⟩ := value.exists_encode_eq_ok context.version
  exact ⟨(name, encoded), bind_eq_ok_iff.mpr ⟨encoded, hencoded, rfl⟩⟩

theorem SimpleStatement.exists_boundValues_eq_ok (hcodecs : context.codecs = .standard)
    (statement : SimpleStatement) : ∃ values, statement.boundValues context = .ok values := by
  simp only [boundValues_eq_ok_iff]
  by_cases hpositional : statement.positional = []
  · by_cases hnamed : statement.named = []
    · exact ⟨_, .inr (.inr ⟨hpositional, hnamed, rfl⟩)⟩
    · obtain ⟨encoded, hencoded⟩ := Value.exists_encodeNamed_eq_ok hcodecs statement.named
      exact ⟨_, .inr (.inl ⟨hpositional, hnamed, encoded, hencoded, rfl⟩)⟩
  · obtain ⟨encoded, hencoded⟩ := Value.exists_encodePositional_eq_ok hcodecs statement.positional
    exact ⟨_, .inl ⟨hpositional, encoded, hencoded, rfl⟩⟩

/-! ### Checks of statements -/

/-- A keyspace that the protocol version can not carry. -/
def Context.RefusesKeyspace (context : Context) (keyspace : Option String)
    (error : ClientError) : Prop :=
  keyspace.isSome ∧ context.supports .requestKeyspace = false ∧
    error = .invalidArgument (.requestKeyspace context.version)

theorem Context.checkKeyspace_eq_error_iff {keyspace : Option String} {error : ClientError} :
    context.checkKeyspace keyspace = .error error ↔ context.RefusesKeyspace keyspace error := by
  unfold checkKeyspace RefusesKeyspace
  cases keyspace.isSome <;> cases context.supports .requestKeyspace <;> simp [eq_comm]

/-- Positional and named values together. -/
def SimpleStatement.MixesValues (statement : SimpleStatement) (error : ClientError) : Prop :=
  statement.positional ≠ [] ∧ statement.named ≠ [] ∧ error = .invalidArgument .mixedValues

/-- Whether the marker at an index is the first one without a value. -/
def BoundStatement.IsFirstUnset (statement : BoundStatement) (index : Nat) : Prop :=
  statement.slots[index]? = some .unset ∧
    ∀ earlier < index, statement.slots[earlier]? ≠ some .unset

/-- A marker without a value; the first one is reported. -/
def BoundStatement.LacksValue (statement : BoundStatement) (error : ClientError) : Prop :=
  ∃ index, statement.IsFirstUnset index ∧ error = .illegalState (.unsetValue index)

theorem BoundStatement.firstUnset?_eq_some_iff {statement : BoundStatement} {index : Nat} :
    statement.firstUnset? = some index ↔ statement.IsFirstUnset index := by
  rw [firstUnset?, List.findIdx?_eq_some_iff_getElem]
  constructor
  · rintro ⟨hindex, hslot, hearlier⟩
    refine ⟨List.getElem?_eq_some_iff.mpr ⟨hindex, EncodedValue.isUnset_iff.mp hslot⟩,
      fun earlier hlt h => ?_⟩
    obtain ⟨_, hslot⟩ := List.getElem?_eq_some_iff.mp h
    exact hearlier earlier hlt (EncodedValue.isUnset_iff.mpr hslot)
  · rintro ⟨hslot, hearlier⟩
    obtain ⟨hindex, hslot⟩ := List.getElem?_eq_some_iff.mp hslot
    refine ⟨hindex, EncodedValue.isUnset_iff.mpr hslot,
      fun earlier hlt h => hearlier earlier hlt ?_⟩
    exact List.getElem?_eq_some_iff.mpr ⟨hlt.trans hindex, EncodedValue.isUnset_iff.mp h⟩

theorem BoundStatement.ensureAllSet_eq_error_iff {statement : BoundStatement}
    {error : ClientError} :
    statement.ensureAllSet = .error error ↔ statement.LacksValue error := by
  simp only [LacksValue, ← firstUnset?_eq_some_iff, ensureAllSet]
  cases statement.firstUnset? <;> simp [eq_comm]

/-- A marker without a value in a bound child; the first one of the first such child is reported. -/
def BatchStatement.LacksValue (statement : BatchStatement) (error : ClientError) : Prop :=
  ∃ before bound after, statement.children = before ++ .bound bound :: after ∧
    (∀ earlier, .bound earlier ∈ before → earlier.IsComplete) ∧ bound.LacksValue error

theorem BatchStatement.ensureAllSet_eq_error_iff {statement : BatchStatement}
    {error : ClientError} :
    statement.ensureAllSet = .error error ↔ statement.LacksValue error := by
  unfold ensureAllSet
  rw [forM_eq_error_iff]
  constructor
  · rintro ⟨before, _ | bound, after, hchildren, hbefore, hfailed⟩
    · exact nomatch hfailed
    · refine ⟨before, bound, after, hchildren, fun earlier hearlier => ?_,
        BoundStatement.ensureAllSet_eq_error_iff.mp hfailed⟩
      exact BoundStatement.ensureAllSet_eq_ok_iff.mp (hbefore (.bound earlier) hearlier)
  · rintro ⟨before, bound, after, hchildren, hbefore, hlacks⟩
    refine ⟨before, .bound bound, after, hchildren, ?_,
      BoundStatement.ensureAllSet_eq_error_iff.mpr hlacks⟩
    rintro (simple | earlier) hearlier
    · rfl
    · exact BoundStatement.ensureAllSet_eq_ok_iff.mpr (hbefore earlier hearlier)

/-- A simple child with named values; the first one is reported. -/
def BatchStatement.NamesValues (statement : BatchStatement) (error : ClientError) : Prop :=
  ∃ before simple after, statement.children = before ++ .simple simple :: after ∧
    (∀ earlier, .simple earlier ∈ before → earlier.named = []) ∧ simple.named ≠ [] ∧
    error = .invalidArgument (.namedValuesInBatch simple.query)

theorem BatchChild.toEntry_simple_eq_error_iff (hcodecs : context.codecs = .standard)
    {statement : SimpleStatement} {error : ClientError} :
    (BatchChild.simple statement).toEntry context = .error error ↔
      statement.named ≠ [] ∧ error = .invalidArgument (.namedValuesInBatch statement.query) := by
  obtain ⟨values, hvalues⟩ := Value.exists_encodePositional_eq_ok hcodecs statement.positional
  rw [toEntry, hvalues]
  cases statement.named with
  | nil => simp [bind, Except.bind, pure, Except.pure]
  | cons value named => simp [eq_comm]

theorem BatchChild.exists_toEntry_simple_eq_ok_iff (hcodecs : context.codecs = .standard)
    {statement : SimpleStatement} :
    (∃ entry, (BatchChild.simple statement).toEntry context = .ok entry) ↔
      statement.named = [] := by
  obtain ⟨values, hvalues⟩ := Value.exists_encodePositional_eq_ok hcodecs statement.positional
  simp only [toEntry_simple_eq_ok_iff]
  exact ⟨fun ⟨_, hnamed, _⟩ => hnamed, fun hnamed => ⟨_, hnamed, values, hvalues, rfl⟩⟩

theorem BatchStatement.entries_eq_error_iff (hcodecs : context.codecs = .standard)
    {statement : BatchStatement} {error : ClientError} :
    statement.children.mapM (BatchChild.toEntry context) = .error error ↔
      statement.NamesValues error := by
  rw [mapM_eq_error_iff]
  constructor
  · rintro ⟨before, simple | bound, after, hchildren, hbefore, hfailed⟩
    · refine ⟨before, simple, after, hchildren, fun earlier hearlier => ?_,
        (BatchChild.toEntry_simple_eq_error_iff hcodecs).mp hfailed⟩
      exact (BatchChild.exists_toEntry_simple_eq_ok_iff hcodecs).mp
        (hbefore (.simple earlier) hearlier)
    · exact nomatch hfailed
  · rintro ⟨before, simple, after, hchildren, hbefore, hnamed⟩
    refine ⟨before, .simple simple, after, hchildren, ?_,
      (BatchChild.toEntry_simple_eq_error_iff hcodecs).mpr hnamed⟩
    rintro (earlier | bound) hearlier
    · exact (BatchChild.exists_toEntry_simple_eq_ok_iff hcodecs).mpr (hbefore earlier hearlier)
    · exact ⟨_, rfl⟩

/-! ### Requests -/

/-- Why a request of a statement is refused once its settings are known. -/
def Statement.refusals (statement : Statement) (context : Context) : List (ClientError → Prop) :=
  match statement with
  | simple statement =>
    [statement.MixesValues, context.RefusesKeyspace statement.attributes.keyspace]
  | bound statement =>
    [fun error => context.supports .unsetValues = false ∧ statement.LacksValue error]
  | batch statement =>
    [fun error => context.supports .unsetValues = false ∧ statement.LacksValue error,
      context.RefusesKeyspace statement.attributes.keyspace, statement.NamesValues]

/-- Why a request is refused for its profile. -/
def Profile.refusals (profile : Profile) : List (ClientError → Prop) :=
  profile.defects.map (Reason.map .config)

theorem Profile.not_codec_of_mem_refusals {profile : Profile} {reason : ClientError → Prop}
    (h : reason ∈ profile.refusals) (error : CodecError) : ¬ reason (.codec error) := by
  obtain ⟨defect, -, rfl⟩ := List.mem_map.mp h
  rintro ⟨cause, -, hcause⟩
  exact nomatch hcause

theorem Statement.not_codec_of_mem_refusals {statement : Statement}
    {reason : ClientError → Prop} (h : reason ∈ statement.refusals context)
    (error : CodecError) : ¬ reason (.codec error) := by
  have hmixes (statement : SimpleStatement) : ¬ statement.MixesValues (.codec error) :=
    fun hreason => nomatch hreason.2.2
  have hkeyspace (keyspace : Option String) : ¬ context.RefusesKeyspace keyspace (.codec error) :=
    fun hreason => nomatch hreason.2.2
  have hunset (statement : BoundStatement) : ¬ statement.LacksValue (.codec error) :=
    fun ⟨_, _, hreason⟩ => nomatch hreason
  have hbatch (statement : BatchStatement) : ¬ statement.LacksValue (.codec error) :=
    fun ⟨_, child, _, _, _, hreason⟩ => hunset child hreason
  have hnamed (statement : BatchStatement) : ¬ statement.NamesValues (.codec error) :=
    fun ⟨_, _, _, _, _, _, hreason⟩ => nomatch hreason
  cases statement with
  | simple statement =>
    simp only [refusals, List.mem_cons, List.not_mem_nil, or_false] at h
    rcases h with rfl | rfl
    · exact hmixes statement
    · exact hkeyspace _
  | bound statement =>
    obtain rfl := List.mem_singleton.mp h
    exact fun hreason => hunset statement hreason.2
  | batch statement =>
    simp only [refusals, List.mem_cons, List.not_mem_nil, or_false] at h
    rcases h with rfl | rfl | rfl
    · exact fun hreason => hbatch statement hreason.2
    · exact hkeyspace _
    · exact hnamed statement

theorem SimpleStatement.failsBy_toRequest (hcodecs : context.codecs = .standard)
    (statement : SimpleStatement) :
    FailsBy (statement.toRequest context inputs)
      ((Statement.simple statement).refusals context) := by
  obtain ⟨values, hvalues⟩ := statement.exists_boundValues_eq_ok hcodecs
  unfold toRequest
  refine FailsBy.check_bind (fun error => ?_) ?_
  · rw [Bool.and_eq_true, Bool.not_eq_true', Bool.not_eq_true', List.isEmpty_eq_false_iff,
      List.isEmpty_eq_false_iff, and_assoc]
    exact and_congr_right fun _ => and_congr_right fun _ =>
      ⟨fun h => (Except.error.inj h).symm, fun h => h ▸ rfl⟩
  · refine (FailsBy.of_eq_error_iff fun _ => Context.checkKeyspace_eq_error_iff).bind fun _ _ => ?_
    rw [hvalues]
    exact .ok _

theorem BoundStatement.failsBy_toRequest (statement : BoundStatement) :
    FailsBy (statement.toRequest context inputs)
      ((Statement.bound statement).refusals context) := by
  unfold toRequest
  refine FailsBy.check_bind (fun error => ?_) (.ok _)
  rw [ensureAllSet_eq_error_iff, Bool.not_eq_true']

theorem BatchStatement.failsBy_toRequest (hcodecs : context.codecs = .standard)
    (statement : BatchStatement) :
    FailsBy (statement.toRequest context inputs)
      ((Statement.batch statement).refusals context) := by
  unfold toRequest
  refine FailsBy.check_bind (fun error => ?_) ?_
  · rw [ensureAllSet_eq_error_iff, Bool.not_eq_true']
  · refine (FailsBy.of_eq_error_iff fun _ => Context.checkKeyspace_eq_error_iff).bind fun _ _ => ?_
    exact (FailsBy.of_eq_error_iff fun _ => entries_eq_error_iff hcodecs).map _

theorem Statement.failsBy_toRequest (hcodecs : context.codecs = .standard)
    (statement : Statement) :
    FailsBy (statement.toRequest context inputs) (statement.refusals context) := by
  cases statement with
  | simple statement => exact statement.failsBy_toRequest hcodecs
  | bound statement => exact statement.failsBy_toRequest
  | batch statement => exact statement.failsBy_toRequest hcodecs

/-- The reasons of the profile come first. -/
theorem Session.failsBy_makeRequest {session : Session} {statement : Statement}
    {reasons : List (ClientError → Prop)} (profile : Profile)
    (hstatement : ∀ inputs, FailsBy (statement.toRequest session.context inputs) reasons) :
    FailsBy (session.makeRequest profile statement).1 (profile.refusals ++ reasons) := by
  have hmake : (session.makeRequest profile statement).1 =
      ((RequestSettings.ofProfile profile).mapError .config >>= fun settings =>
        statement.toRequest session.context
          { settings
            timestamp := (session.takeTimestamp statement).1
            shapes := session.shapes }) := by
    unfold makeRequest
    cases RequestSettings.ofProfile profile <;> rfl
  rw [hmake]
  exact (profile.failsBy_ofProfile.mapError .config).bind fun _ _ => hstatement _

/-- **When a statement has no request.**  With the standard registry, a request is refused exactly
if a reason of the profile or of the statement applies, and for the first one that does.  Values are
never refused by a codec. -/
theorem Session.makeRequest_eq_error_iff_isFirst {session : Session}
    (hcodecs : session.context.codecs = .standard) (profile : Profile) (statement : Statement) :
    let outcome := (session.makeRequest profile statement).1
    let reasons := profile.refusals ++ statement.refusals session.context
    (∀ error, outcome = .error error ↔ IsFirst reasons error) ∧
      ((∃ error, outcome = .error error) ↔ ∃ reason ∈ reasons, ∃ error, reason error) ∧
      ∀ error, outcome ≠ .error (.codec error) := by
  intro outcome reasons
  have hfails : FailsBy outcome reasons :=
    failsBy_makeRequest profile fun _ => statement.failsBy_toRequest hcodecs
  refine ⟨hfails, ?_, fun error h => ?_⟩
  · rw [← exists_isFirst_iff]
    exact exists_congr hfails
  · obtain ⟨reason, hmem, hreason⟩ := ((hfails _).mp h).exists_mem
    rcases List.mem_append.mp hmem with hmem | hmem
    · exact Profile.not_codec_of_mem_refusals hmem error hreason
    · exact Statement.not_codec_of_mem_refusals hmem error hreason

/-- A bound statement with one marker, which has no value. -/
def withoutValue : BoundStatement where
  prepared := {
    handle := 0
    id := [1]
    query := ""
    markers := [⟨"k", "t", "c", .native .int⟩]
    partitionKey := []
    preparedShape := {}
    boundDefaults := {}
    customPayload := ∅
    codecs := .standard
    version := .v3 }
  slots := [.unset]
  attributes := {}
  length_slots := rfl

/-- A batch with a keyspace, with a named value in a child and with no value in another one. -/
def faultyBatch : BatchStatement where
  kind := .logged
  children := [.simple { query := "q", named := [("n", .int 1)] }, .bound withoutValue]
  attributes := { keyspace := some "k" }

/-- Each version reports the first of the faults that it can not pass over, and a profile without
settings comes before all of them. -/
theorem Session.makeRequest_eq_error_iff_isFirst_of_faultyBatch :
    let session (version : ProtocolVersion) : Session :=
      { context := { version }, timestamps := .serverSide }
    let reasons (version : ProtocolVersion) (profile : Profile) : List (ClientError → Prop) :=
      profile.refusals ++ (Statement.batch faultyBatch).refusals (session version).context
    (∀ error, IsFirst (reasons .v3 (.empty "bare")) error ↔
      error = .config (.missing .requestConsistency)) ∧
    (∀ error, IsFirst (reasons .v3 .standard) error ↔ error = .illegalState (.unsetValue 0)) ∧
    (∀ error, IsFirst (reasons .v4 .standard) error ↔
      error = .invalidArgument (.requestKeyspace .v4)) ∧
    (∀ error, IsFirst (reasons .v5 .standard) error ↔
      error = .invalidArgument (.namedValuesInBatch "q")) := by
  intro session reasons
  have hfirst {version : ProtocolVersion} {profile : Profile} {found : ClientError}
      (hfound : ((session version).makeRequest profile (.batch faultyBatch)).1 = .error found)
      (error : ClientError) : IsFirst (reasons version profile) error ↔ error = found := by
    have hcodecs : (session version).context.codecs = .standard := rfl
    have hiff := (makeRequest_eq_error_iff_isFirst hcodecs profile (.batch faultyBatch)).1 error
    rw [hfound, Except.error.injEq] at hiff
    exact hiff.symm.trans eq_comm
  exact ⟨hfirst rfl, hfirst rfl, hfirst rfl, hfirst rfl⟩

end CqlWire
