import CqlWire.Proofs.Config.Consistency
import CqlWire.ServerError

/-!
# What is kept of an ERROR answer

The codes of the protocol with the failures that they stand for, and the details that belong to each
of them, are written down as a table of their own (`ErrorAnswer.StandsFor`).  Classification follows
the table: an answer that is in it becomes the failure of its code with every field as it was sent,
and any other answer becomes a protocol error with the code that was sent
(`ErrorAnswer.classify_standsFor`).
-/

namespace CqlWire

/-! ### Kinds of writes -/

namespace WriteType

/-- Whether a kind of write was sent under a name.  A kind that is known is told from its name. -/
def IsSentAs (kind : WriteType) (name : String) : Prop :=
  kind.name = name ∧ ∀ known : WriteType, known.isKnown → known.name = name → kind = known

theorem ofName_name {kind : WriteType} (h : kind.isKnown) : ofName kind.name = kind := by
  cases kind with
  | other name => exact absurd h Bool.false_ne_true
  | _ => decide +kernel

theorem isSentAs_ofName (name : String) : (ofName name).IsSentAs name := by
  refine ⟨name_ofName name, ?_⟩
  rintro known hknown rfl
  exact ofName_name hknown

theorem isKnown_ofName_or (name : String) :
    (ofName name).isKnown ∨ ofName name = other name := by
  unfold ofName
  cases hfind : known.find? fun kind => kind.name = name with
  | none => exact .inr rfl
  | some kind =>
    have hall : ∀ kind ∈ known, kind.isKnown := by decide
    exact .inl (hall kind (List.mem_of_find?_eq_some hfind))

/-- A name stands for one kind of write. -/
theorem IsSentAs.eq_ofName {kind : WriteType} {name : String} (h : kind.IsSentAs name) :
    kind = ofName name := by
  obtain ⟨rfl, hknown⟩ := h
  by_cases hkind : kind.isKnown
  · exact (ofName_name hkind).symm
  · cases kind with
    | other name =>
      rcases isKnown_ofName_or name with hread | hread
      · exact hknown _ hread (name_ofName name)
      · exact hread.symm
    | _ => exact absurd rfl hkind

end WriteType

/-! ### The codes of the protocol -/

namespace ErrorAnswer

/-- The failure that an ERROR answer stands for, by its code.  Details are looked at only where they
belong to the code; then their shape and the consistency code in them have to be right. -/
inductive StandsFor : ErrorAnswer → CoordinatorFailure → Prop
  | server {message details} : StandsFor ⟨0x0000, message, details⟩ (.serverError message)
  | protocol {message details} :
    StandsFor ⟨0x000A, message, details⟩ (.protocolError 0x000A message)
  | authentication {message details} :
    StandsFor ⟨0x0100, message, details⟩
      (.protocolError 0x0100 s!"Unexpected authentication error ({message})")
  | unavailable {message consistency required alive} {level : Consistency}
      (hlevel : level.code = consistency) :
    StandsFor ⟨0x1000, message, .unavailable consistency required alive⟩
      (.unavailable level required alive)
  | overloaded {message details} : StandsFor ⟨0x1001, message, details⟩ .overloaded
  | bootstrapping {message details} : StandsFor ⟨0x1002, message, details⟩ .bootstrapping
  | truncate {message details} : StandsFor ⟨0x1003, message, details⟩ (.truncate message)
  | writeTimeout {message consistency received blockFor name} {level : Consistency}
      {writeType : WriteType} (hlevel : level.code = consistency)
      (htype : writeType.IsSentAs name) :
    StandsFor ⟨0x1100, message, .writeTimeout consistency received blockFor name⟩
      (.writeTimeout level received blockFor writeType)
  | readTimeout {message consistency received blockFor dataPresent} {level : Consistency}
      (hlevel : level.code = consistency) :
    StandsFor ⟨0x1200, message, .readTimeout consistency received blockFor dataPresent⟩
      (.readTimeout level received blockFor dataPresent)
  | readFailure {message consistency received blockFor numFailures reasons dataPresent}
      {level : Consistency} (hlevel : level.code = consistency) :
    StandsFor
      ⟨0x1300, message,
        .readFailure consistency received blockFor numFailures reasons dataPresent⟩
      (.readFailure level received blockFor numFailures dataPresent reasons)
  | functionFailure {message details} :
    StandsFor ⟨0x1400, message, details⟩ (.functionFailure message)
  | writeFailure {message consistency received blockFor numFailures reasons name}
      {level : Consistency} {writeType : WriteType} (hlevel : level.code = consistency)
      (htype : writeType.IsSentAs name) :
    StandsFor
      ⟨0x1500, message, .writeFailure consistency received blockFor numFailures reasons name⟩
      (.writeFailure level received blockFor writeType numFailures reasons)
  | syntaxError {message details} : StandsFor ⟨0x2000, message, details⟩ (.syntaxError message)
  | unauthorized {message details} : StandsFor ⟨0x2100, message, details⟩ (.unauthorized message)
  | invalidQuery {message details} : StandsFor ⟨0x2200, message, details⟩ (.invalidQuery message)
  | invalidConfiguration {message details} :
    StandsFor ⟨0x2300, message, details⟩ (.invalidConfiguration message)
  | alreadyExists {message keyspace table} :
    StandsFor ⟨0x2400, message, .alreadyExists keyspace table⟩ (.alreadyExists keyspace table)

variable {error : ErrorAnswer} {failure : CoordinatorFailure}

/-- The code of a failure is that of the answer that stands for it. -/
theorem StandsFor.code_eq (h : error.StandsFor failure) : failure.code = error.code := by
  cases h <;> rfl

theorem readConsistency_eq_ok_iff {code : UInt16} {level : Consistency} :
    readConsistency code = .ok level ↔ level.code = code := by
  rw [← Consistency.ofCode_eq_ok_iff, readConsistency]
  cases Consistency.ofCode code <;> simp [Except.mapError]

/-- Details with a consistency code are read if the code is that of a level. -/
theorem readConsistency_bind_eq_ok_iff {code : UInt16} {f : Consistency → CoordinatorFailure} :
    (do return some (f (← readConsistency code)) :
        Except DetailsFault (Option CoordinatorFailure)) = .ok (some failure) ↔
      ∃ level : Consistency, level.code = code ∧ f level = failure := by
  simp only [← readConsistency_eq_ok_iff]
  cases readConsistency code with
  | error fault => exact iff_of_false nofun fun ⟨_, h, _⟩ => nomatch h
  | ok level =>
    constructor
    · intro h
      exact ⟨level, rfl, Option.some.inj (Except.ok.inj h)⟩
    · rintro ⟨_, ⟨⟩, rfl⟩
      rfl

/-! ### Following the table -/

/-- An answer in the table is classified as the table says. -/
theorem StandsFor.exists_failureOf (h : error.StandsFor failure) :
    ∃ kind : ErrorKind, error.code = kind.code ∧
      failureOf error.message error.details kind = .ok (some failure) := by
  cases h with
  | server => exact ⟨.server, rfl, rfl⟩
  | protocol => exact ⟨.protocol, rfl, rfl⟩
  | authentication => exact ⟨.authentication, rfl, rfl⟩
  | unavailable hlevel =>
    exact ⟨.unavailable, rfl, readConsistency_bind_eq_ok_iff.mpr ⟨_, hlevel, rfl⟩⟩
  | overloaded => exact ⟨.overloaded, rfl, rfl⟩
  | bootstrapping => exact ⟨.bootstrapping, rfl, rfl⟩
  | truncate => exact ⟨.truncate, rfl, rfl⟩
  | writeTimeout hlevel htype =>
    rw [htype.eq_ofName]
    exact ⟨.writeTimeout, rfl, readConsistency_bind_eq_ok_iff.mpr ⟨_, hlevel, rfl⟩⟩
  | readTimeout hlevel =>
    exact ⟨.readTimeout, rfl, readConsistency_bind_eq_ok_iff.mpr ⟨_, hlevel, rfl⟩⟩
  | readFailure hlevel =>
    exact ⟨.readFailure, rfl, readConsistency_bind_eq_ok_iff.mpr ⟨_, hlevel, rfl⟩⟩
  | functionFailure => exact ⟨.functionFailure, rfl, rfl⟩
  | writeFailure hlevel htype =>
    rw [htype.eq_ofName]
    exact ⟨.writeFailure, rfl, readConsistency_bind_eq_ok_iff.mpr ⟨_, hlevel, rfl⟩⟩
  | syntaxError => exact ⟨.syntaxError, rfl, rfl⟩
  | unauthorized => exact ⟨.unauthorized, rfl, rfl⟩
  | invalidQuery => exact ⟨.invalidQuery, rfl, rfl⟩
  | invalidConfiguration => exact ⟨.invalidConfiguration, rfl, rfl⟩
  | alreadyExists => exact ⟨.alreadyExists, rfl, rfl⟩

/-- What is classified without a fault is in the table. -/
theorem standsFor_of_failureOf {kind : ErrorKind} (hcode : error.code = kind.code)
    (h : failureOf error.message error.details kind = .ok (some failure)) :
    error.StandsFor failure := by
  obtain ⟨code, message, details⟩ := error
  obtain rfl : code = kind.code := hcode
  cases kind with
  | server => cases h; exact .server
  | protocol => cases h; exact .protocol
  | authentication => cases h; exact .authentication
  | unavailable =>
    cases details with
    | unavailable consistency required alive =>
      obtain ⟨level, hlevel, rfl⟩ := readConsistency_bind_eq_ok_iff.mp h
      exact .unavailable hlevel
    | _ => exact nomatch h
  | overloaded => cases h; exact .overloaded
  | bootstrapping => cases h; exact .bootstrapping
  | truncate => cases h; exact .truncate
  | writeTimeout =>
    cases details with
    | writeTimeout consistency received blockFor name =>
      obtain ⟨level, hlevel, rfl⟩ := readConsistency_bind_eq_ok_iff.mp h
      exact .writeTimeout hlevel (WriteType.isSentAs_ofName name)
    | _ => exact nomatch h
  | readTimeout =>
    cases details with
    | readTimeout consistency received blockFor dataPresent =>
      obtain ⟨level, hlevel, rfl⟩ := readConsistency_bind_eq_ok_iff.mp h
      exact .readTimeout hlevel
    | _ => exact nomatch h
  | readFailure =>
    cases details with
    | readFailure consistency received blockFor numFailures reasons dataPresent =>
      obtain ⟨level, hlevel, rfl⟩ := readConsistency_bind_eq_ok_iff.mp h
      exact .readFailure hlevel
    | _ => exact nomatch h
  | functionFailure => cases h; exact .functionFailure
  | writeFailure =>
    cases details with
    | writeFailure consistency received blockFor numFailures reasons name =>
      obtain ⟨level, hlevel, rfl⟩ := readConsistency_bind_eq_ok_iff.mp h
      exact .writeFailure hlevel (WriteType.isSentAs_ofName name)
    | _ => exact nomatch h
  | syntaxError => cases h; exact .syntaxError
  | unauthorized => cases h; exact .unauthorized
  | invalidQuery => cases h; exact .invalidQuery
  | invalidConfiguration => cases h; exact .invalidConfiguration
  | alreadyExists =>
    cases details with
    | alreadyExists keyspace table => cases h; exact .alreadyExists
    | _ => exact nomatch h
  | unprepared => exact nomatch h

theorem readConsistency_bind_ne_ok_none {code : UInt16}
    {f : Consistency → CoordinatorFailure} :
    (do return some (f (← readConsistency code)) :
        Except DetailsFault (Option CoordinatorFailure)) ≠ .ok none := by
  cases readConsistency code <;> exact nofun

/-- Only a request to prepare again stands for no failure. -/
theorem failureOf_ne_ok_none {message : String} {details : ErrorDetails} {kind : ErrorKind}
    (hkind : kind ≠ .unprepared) : failureOf message details kind ≠ .ok none := by
  cases kind with
  | unprepared => exact absurd rfl hkind
  | unavailable | writeTimeout | readTimeout | readFailure | writeFailure =>
    cases details <;> first | exact readConsistency_bind_ne_ok_none | exact nofun
  | alreadyExists => cases details <;> exact nofun
  | _ => exact nofun

theorem failure?_of_standsFor (h : error.StandsFor failure) : error.failure? = some failure := by
  obtain ⟨kind, hcode, hfailure⟩ := h.exists_failureOf
  simp only [failure?, hcode, ErrorKind.ofCode?_code, hfailure]

/-- An answer that is not in the table becomes a protocol error with its code. -/
theorem exists_failure?_of_not_standsFor (hcode : error.code ≠ 0x2500)
    (h : ∀ failure, ¬ error.StandsFor failure) :
    ∃ message, error.failure? = some (.protocolError error.code message) := by
  cases hkind : ErrorKind.ofCode? error.code with
  | none =>
    simp only [failure?, hkind]
    exact ⟨_, rfl⟩
  | some kind =>
    have hkindCode := ErrorKind.eq_code_of_ofCode? hkind
    have hne : kind ≠ .unprepared := by
      rintro rfl
      exact hcode hkindCode
    cases hfailure : failureOf error.message error.details kind with
    | error fault =>
      simp only [failure?, hkind, hfailure]
      exact ⟨_, rfl⟩
    | ok outcome =>
      cases outcome with
      | none => exact absurd hfailure (failureOf_ne_ok_none hne)
      | some failure => exact absurd (standsFor_of_failureOf hkindCode hfailure) (h failure)

/-! ### Classification -/

/-- **Classification loses neither the code nor the details.**  Every answer but a request to
prepare again is an error of the node that sent it, with the code that was sent.  It is the failure
that the answer stands for, and a protocol error where the answer stands for none. -/
theorem classify_standsFor (node : Node) (hcode : error.code ≠ 0x2500) :
    ∃ result, error.classify node = some result ∧ result.node = node ∧
      result.code = error.code ∧
      (∀ failure, error.StandsFor failure → result.failure = failure) ∧
      ((∀ failure, ¬ error.StandsFor failure) →
        ∃ message, result.failure = .protocolError error.code message) := by
  by_cases h : ∃ failure, error.StandsFor failure
  · obtain ⟨failure, hfailure⟩ := h
    have hresult := failure?_of_standsFor hfailure
    refine ⟨⟨node, failure⟩, ?_, rfl, hfailure.code_eq, ?_, fun hnone => ?_⟩
    · rw [classify, hresult, Option.map_some]
    · intro failure' hfailure'
      -- The answer has one classification, so it stands for one failure.
      rw [failure?_of_standsFor hfailure'] at hresult
      exact (Option.some.inj hresult).symm
    · exact absurd hfailure (hnone failure)
  · have hnone := not_exists.mp h
    obtain ⟨message, hresult⟩ := exists_failure?_of_not_standsFor hcode hnone
    refine ⟨⟨node, .protocolError error.code message⟩, ?_, rfl, rfl, ?_, fun _ => ⟨message, rfl⟩⟩
    · rw [classify, hresult, Option.map_some]
    · exact fun failure hfailure => absurd hfailure (hnone failure)

/-- The answer to a write that failed, whose kind is not known, and in which two replicas gave a
reason. -/
theorem classify_standsFor_of_writeFailure :
    let node : Node := { endpoint := ⟨.v4 0x0A000001, 9042⟩ }
    let reasons : ReasonMap := (∅ : ReasonMap).insert (.v4 0x0A000002) 1
    let error : ErrorAnswer :=
      { code := 0x1500, message := "m", details := .writeFailure 6 1 2 3 reasons "FUTURE" }
    error.code ≠ 0x2500 ∧ ∃ result, error.classify node = some result ∧ result.node = node ∧
      result.code = 0x1500 ∧
      result.failure = .writeFailure .localQuorum 1 2 (.other "FUTURE") 3 reasons := by
  intro node reasons error
  have hcode : error.code ≠ 0x2500 := by decide
  have htype : (WriteType.other "FUTURE").IsSentAs "FUTURE" := WriteType.isSentAs_ofName "FUTURE"
  obtain ⟨result, hresult, hnode, hkept, hfailure, -⟩ := classify_standsFor node hcode
  exact ⟨hcode, result, hresult, hnode, hkept, hfailure _ (.writeFailure rfl htype)⟩

end ErrorAnswer

end CqlWire
