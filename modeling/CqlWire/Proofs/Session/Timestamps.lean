import CqlWire.Proofs.Config.Profile
import CqlWire.Proofs.Frame.Timestamp
import CqlWire.Proofs.Request.OfStatement
import CqlWire.Proofs.Session.Run
import Mathlib.Data.List.Nodup

/-!
# Timestamps along a run

Making a request takes one number of the session's sequence of timestamps if the statement leaves
the time to the session and the profile gives all settings, and none otherwise, whether the request
is made or refused later (`Session.timestamps_makeRequest`).  Nothing else takes one.  So the
numbers that are taken in the course of a run are the next ones of the sequence, in order
(`Session.flatMap_drawn_attempts`), none of them is taken twice, and each goes into the request for
which it was taken (`Session.timestamps_of_run`).
-/

namespace CqlWire

/-- The places in the sequence of the numbers handed out between two states of a source. -/
def TimestampSource.placesBetween (before after : TimestampSource) : List Nat :=
  List.range' before.drawn (after.drawn - before.drawn)

theorem TimestampSource.placesBetween_self (source : TimestampSource) :
    source.placesBetween source = [] := by
  rw [placesBetween, Nat.sub_self, List.range'_zero]

/-- What was handed out until some moment, and then, is what was handed out in all. -/
theorem TimestampSource.placesBetween_append {first second third : TimestampSource}
    (h : first.drawn ≤ second.drawn) (h' : second.drawn ≤ third.drawn) :
    first.placesBetween second ++ second.placesBetween third = first.placesBetween third := by
  obtain ⟨m, hm⟩ := Nat.exists_eq_add_of_le h
  obtain ⟨n, hn⟩ := Nat.exists_eq_add_of_le h'
  have hfront : second.drawn - first.drawn = m := by omega
  have hback : third.drawn - second.drawn = n := by omega
  have hwhole : third.drawn - first.drawn = m + n := by omega
  rw [placesBetween, placesBetween, placesBetween, hfront, hback, hwhole, hm,
    List.range'_append_1]

/-- What it came to when a request was made in the course of a run. -/
structure Attempt where
  profile : Profile
  statement : Statement
  outcome : Except ClientError Request
  /-- The places in the sequence of timestamps that were taken for it. -/
  drawn : List Nat

/-- Whether making a request takes a timestamp: the statement leaves the time to the session, and
the profile gives all settings. -/
def Attempt.TakesTimestamp (attempt : Attempt) : Prop :=
  attempt.statement.attributes.timestamp = Timestamp.unset ∧ attempt.profile.IsComplete

namespace Session

/-- Makes a request and notes what it came to. -/
def attempt (session : Session) (profile : Profile) (statement : Statement) : Attempt :=
  let (outcome, later) := session.makeRequest profile statement
  { profile, statement, outcome, drawn := session.timestamps.placesBetween later.timestamps }

/-- The requests of a run, in the order in which they are made. -/
def attempts (session : Session) : List SessionStep → List Attempt
  | [] => []
  | first :: steps =>
    match first with
    | .make profile statement =>
      session.attempt profile statement :: (session.step first).attempts steps
    | .prepare _ _ | .receive _ _ => (session.step first).attempts steps

/-! ### One step -/

/-- Making a request takes the next timestamp or none. -/
theorem timestamps_makeRequest (session : Session) (profile : Profile) (statement : Statement) :
    let later := (session.makeRequest profile statement).2.timestamps
    ((session.attempt profile statement).TakesTimestamp ∧ later = session.timestamps.advance) ∨
      (¬ (session.attempt profile statement).TakesTimestamp ∧ later = session.timestamps) := by
  unfold makeRequest
  cases hsettings : RequestSettings.ofProfile profile with
  | error error =>
    -- The settings come first, so nothing is taken without them.
    refine .inr ⟨fun htakes => ?_, rfl⟩
    obtain ⟨settings, hok⟩ := Profile.exists_ofProfile_eq_ok_iff.mpr htakes.2
    exact nomatch hsettings.symm.trans hok
  | ok settings =>
    have hcomplete : profile.IsComplete := Profile.exists_ofProfile_eq_ok_iff.mp ⟨_, hsettings⟩
    by_cases hunset : statement.attributes.timestamp = Timestamp.unset
    · refine .inl ⟨⟨hunset, hcomplete⟩, ?_⟩
      simp only [takeTimestamp, if_pos hunset]
    · refine .inr ⟨fun htakes => hunset htakes.1, ?_⟩
      simp only [takeTimestamp, if_neg hunset]

theorem drawn_attempt (session : Session) (profile : Profile) (statement : Statement) :
    ((session.attempt profile statement).TakesTimestamp ∧
      (session.attempt profile statement).drawn = [session.timestamps.drawn]) ∨
    (¬ (session.attempt profile statement).TakesTimestamp ∧
      (session.attempt profile statement).drawn = []) := by
  have hdrawn : (session.attempt profile statement).drawn
      = session.timestamps.placesBetween (session.makeRequest profile statement).2.timestamps := rfl
  rw [hdrawn]
  rcases session.timestamps_makeRequest profile statement with ⟨htakes, h⟩ | ⟨htakes, h⟩
  · refine .inl ⟨htakes, ?_⟩
    simp [h, TimestampSource.placesBetween, TimestampSource.advance]
  · refine .inr ⟨htakes, ?_⟩
    simp [h, TimestampSource.placesBetween]

/-- A request that is made carries the statement's own time, or else the number that was taken. -/
theorem timestamp_of_makeRequest {session : Session} {profile : Profile} {statement : Statement}
    {request : Request} (h : (session.makeRequest profile statement).1 = .ok request) :
    request.timestamp = (session.takeTimestamp statement).1 := by
  unfold makeRequest at h
  cases hsettings : RequestSettings.ofProfile profile with
  | error error =>
    rw [hsettings] at h
    exact nomatch h
  | ok settings =>
    rw [hsettings] at h
    cases statement with
    | simple statement =>
      obtain ⟨-, -, values, -, rfl⟩ := SimpleStatement.toRequest_eq_ok_iff.mp h
      rfl
    | bound statement =>
      obtain ⟨-, rfl⟩ := BoundStatement.toRequest_eq_ok_iff.mp h
      rfl
    | batch statement =>
      obtain ⟨-, -, entries, -, rfl⟩ := BatchStatement.toRequest_eq_ok_iff.mp h
      rfl

theorem isComplete_of_makeRequest {session : Session} {profile : Profile} {statement : Statement}
    {request : Request} (h : (session.makeRequest profile statement).1 = .ok request) :
    profile.IsComplete := by
  refine Profile.exists_ofProfile_eq_ok_iff.mp ?_
  unfold makeRequest at h
  cases hsettings : RequestSettings.ofProfile profile with
  | error error =>
    rw [hsettings] at h
    exact nomatch h
  | ok settings => exact ⟨settings, rfl⟩

/-- A request that is made carries the statement's own time, or else the one number that was taken
for it. -/
theorem timestamp_attempt {session : Session} {profile : Profile} {statement : Statement}
    {request : Request} (h : (session.attempt profile statement).outcome = .ok request) :
    (statement.attributes.timestamp ≠ Timestamp.unset →
      request.timestamp = statement.attributes.timestamp) ∧
    (statement.attributes.timestamp = Timestamp.unset →
      (session.attempt profile statement).drawn = [session.timestamps.drawn] ∧
        request.timestamp = session.timestamps.peek) := by
  have hmade : (session.makeRequest profile statement).1 = .ok request := h
  have htime := timestamp_of_makeRequest hmade
  constructor
  · intro hown
    rw [htime, takeTimestamp, if_neg hown]
  · intro hunset
    have htakes : (session.attempt profile statement).TakesTimestamp :=
      ⟨hunset, isComplete_of_makeRequest hmade⟩
    have hdrawn := session.drawn_attempt profile statement
    refine ⟨(hdrawn.resolve_right fun h => h.1 htakes).2, ?_⟩
    rw [htime, takeTimestamp, if_pos hunset]

/-- What is not the making of a request takes no timestamp. -/
theorem timestamps_step_of_not_make (session : Session) {step : SessionStep}
    (h : ∀ profile statement, step ≠ .make profile statement) :
    (session.step step).timestamps = session.timestamps := by
  cases step with
  | prepare request response =>
    rw [Session.step, prepare]
    cases request.accept session.context.codecs session.context.version response session.shapes with
    | error error => rfl
    | ok outcome => rfl
  | make profile statement => exact absurd rfl (h profile statement)
  | receive execution answer =>
    rw [Session.step, receive]
    cases answer.toPage session.context session.shapes execution <;> rfl

/-- No step goes back in the sequence of timestamps, or changes it. -/
theorem timestamps_step (session : Session) (step : SessionStep) :
    (session.step step).timestamps.sequence = session.timestamps.sequence ∧
      session.timestamps.drawn ≤ (session.step step).timestamps.drawn := by
  by_cases hmake : ∃ profile statement, step = .make profile statement
  · obtain ⟨profile, statement, rfl⟩ := hmake
    rw [Session.step]
    rcases session.timestamps_makeRequest profile statement with ⟨-, h⟩ | ⟨-, h⟩
    · rw [h]
      exact ⟨rfl, Nat.le_succ _⟩
    · rw [h]
      exact ⟨rfl, Nat.le_refl _⟩
  · rw [session.timestamps_step_of_not_make fun profile statement h => hmake ⟨_, _, h⟩]
    exact ⟨rfl, Nat.le_refl _⟩

/-! ### Runs -/

theorem drawn_le_run (session : Session) (steps : List SessionStep) :
    session.timestamps.drawn ≤ (session.run steps).timestamps.drawn := by
  induction steps generalizing session with
  | nil => exact Nat.le_refl _
  | cons first steps ih => exact (session.timestamps_step first).2.trans (ih _)

/-- The requests of a run are made one after the other, each by what the steps before it have left
behind. -/
theorem exists_of_mem_attempts {session : Session} {steps : List SessionStep} {attempt : Attempt}
    (h : attempt ∈ session.attempts steps) :
    ∃ later : Session, later.timestamps.sequence = session.timestamps.sequence ∧
      attempt = later.attempt attempt.profile attempt.statement := by
  induction steps generalizing session with
  | nil => exact absurd h List.not_mem_nil
  | cons first steps ih =>
    have hlater (h : attempt ∈ (session.step first).attempts steps) :
        ∃ later : Session, later.timestamps.sequence = session.timestamps.sequence ∧
          attempt = later.attempt attempt.profile attempt.statement := by
      obtain ⟨later, hsequence, hattempt⟩ := ih h
      exact ⟨later, hsequence.trans (session.timestamps_step first).1, hattempt⟩
    cases first with
    | make profile statement =>
      rcases List.mem_cons.mp h with rfl | h
      · exact ⟨session, rfl, rfl⟩
      · exact hlater h
    | prepare request response => exact hlater h
    | receive execution answer => exact hlater h

/-- **The numbers that are taken in the course of a run are the next ones of the sequence**, in the
order in which the requests are made. -/
theorem flatMap_drawn_attempts (session : Session) (steps : List SessionStep) :
    (session.attempts steps).flatMap (·.drawn)
      = session.timestamps.placesBetween (session.run steps).timestamps := by
  induction steps generalizing session with
  | nil =>
    rw [attempts, List.flatMap_nil, run, List.foldl_nil, TimestampSource.placesBetween_self]
  | cons first steps ih =>
    have hfirst := (session.timestamps_step first).2
    have hsteps := (session.step first).drawn_le_run steps
    rw [run_cons, ← TimestampSource.placesBetween_append hfirst hsteps, ← ih]
    have hnothing (h : ∀ profile statement, first ≠ .make profile statement) :
        session.timestamps.placesBetween (session.step first).timestamps = [] := by
      rw [session.timestamps_step_of_not_make h, TimestampSource.placesBetween_self]
    cases first with
    | make profile statement =>
      have hdrawn : (session.attempt profile statement).drawn
          = session.timestamps.placesBetween (session.step (.make profile statement)).timestamps :=
        rfl
      rw [attempts, List.flatMap_cons, hdrawn]
    | prepare request response => rw [hnothing (by simp), attempts, List.nil_append]
    | receive execution answer => rw [hnothing (by simp), attempts, List.nil_append]

/-- **Each number of the sequence goes into the request for which it was taken, and into no other.**
Along any run, making a request takes one number if the statement leaves the time to the session and
the profile gives all settings, and none otherwise.  The numbers that are taken are the next ones of
the sequence, without a gap and in order, and no two requests share one.  A request that is made
carries the statement's own time, or else the number that was taken for it, and a frame of the
request has a timestamp of eight bytes exactly if that is not the number that leaves the time to the
server. -/
theorem timestamps_of_run (session : Session) (steps : List SessionStep) :
    let attempts := session.attempts steps
    let places := attempts.flatMap (·.drawn)
    places = List.range' session.timestamps.drawn places.length ∧
    attempts.Pairwise (fun earlier later => earlier.drawn.Disjoint later.drawn) ∧
    ∀ attempt ∈ attempts,
      (attempt.TakesTimestamp → attempt.drawn.length = 1) ∧
      (¬ attempt.TakesTimestamp → attempt.drawn = []) ∧
      ∀ request, attempt.outcome = .ok request →
        (attempt.statement.attributes.timestamp ≠ Timestamp.unset →
          request.timestamp = attempt.statement.attributes.timestamp) ∧
        (attempt.statement.attributes.timestamp = Timestamp.unset →
          ∃ place, attempt.drawn = [place] ∧
            request.timestamp = session.timestamps.sequence place) ∧
        ∀ (features : FeatureTable) (frame : Frame) (bytes : Bytes), frame.request = request →
          frame.encode features = .ok bytes →
          ∃ front stamp keyspace,
            frame.write features = .ok (front ++ [(.other, stamp), (.other, keyspace)]) ∧
            bytes = front.flatMap (·.2) ++ stamp ++ keyspace ∧
            (stamp.length = 8 ↔ request.timestamp ≠ Timestamp.unset) ∧
            (stamp = [] ↔ request.timestamp = Timestamp.unset) ∧
            (request.timestamp ≠ Timestamp.unset → stamp.toInt = request.timestamp.toInt) := by
  intro attempts places
  have hplaces : places = session.timestamps.placesBetween (session.run steps).timestamps :=
    session.flatMap_drawn_attempts steps
  have hnodup : places.Nodup := hplaces ▸ List.nodup_range'
  refine ⟨?_, (List.nodup_flatMap.mp hnodup).2, fun attempt hattempt => ?_⟩
  · rw [hplaces, TimestampSource.placesBetween, List.length_range']
  · obtain ⟨later, hsequence, heq⟩ := exists_of_mem_attempts hattempt
    have hdrawn := later.drawn_attempt attempt.profile attempt.statement
    rw [← heq] at hdrawn
    refine ⟨fun htakes => ?_, fun htakes => ?_, fun request hmade => ?_⟩
    · obtain ⟨-, h⟩ := hdrawn.resolve_right fun h => h.1 htakes
      rw [h, List.length_singleton]
    · exact (hdrawn.resolve_left fun h => htakes h.1).2
    · rw [heq] at hmade
      obtain ⟨hown, htaken⟩ := timestamp_attempt hmade
      rw [← heq] at htaken
      refine ⟨hown, fun hunset => ?_, ?_⟩
      · obtain ⟨hplace, htime⟩ := htaken hunset
        exact ⟨_, hplace, by rw [htime, TimestampSource.peek, hsequence]⟩
      · rintro features frame bytes rfl hencode
        obtain ⟨front, stamp, keyspace, hwrite, hbytes, -, hstamp⟩ :=
          Frame.timestamp_of_encode hencode
        exact ⟨front, stamp, keyspace, hwrite, hbytes, hstamp⟩

/-- Five requests: one without settings, one with values of both kinds, one with a time of its own,
and two that leave the time to the session. -/
def mixedRequests : List SessionStep := [
  .make (.empty "bare") (.simple { query := "a" }),
  .make .standard (.simple { query := "b", positional := [.null], named := [("n", .null)] }),
  .make .standard (.simple { query := "c", attributes := { timestamp := 7 } }),
  .make .standard (.simple { query := "d" }),
  .make .standard (.simple { query := "e" })]

/-- The first number is lost with the second request, which is refused after it was taken.  The
third request carries its own time, which stands in its frame, and the fourth the second number.
Then the sequence wraps around: the fifth request carries the number that leaves the time to the
server, and its frame has nothing in the place of the timestamp. -/
theorem timestamps_of_run_of_mixedRequests :
    let session : Session :=
      { context := { version := .v5 }, timestamps := .counter (Int64.maxValue - 1) 1 }
    let attempts : List Attempt := session.attempts mixedRequests
    let frame (request : Request) : Frame := { version := .v5, request }
    attempts.map (·.drawn) = [[], [0], [], [1], [2]] ∧
    ∃ own taken left : Request,
      attempts[2]?.map Attempt.outcome = some (.ok own) ∧ own.timestamp = 7 ∧
      (∃ (front : List (FramePart × Bytes)) (stamp keyspace : Bytes),
        (frame own).write .standard = .ok (front ++ [(.other, stamp), (.other, keyspace)]) ∧
        (frame own).encode .standard = .ok (front.flatMap (·.2) ++ stamp ++ keyspace) ∧
        stamp.length = 8 ∧ stamp.toInt = 7) ∧
      attempts[3]?.map Attempt.outcome = some (.ok taken) ∧ taken.timestamp = Int64.maxValue ∧
      attempts[4]?.map Attempt.outcome = some (.ok left) ∧ left.timestamp = Timestamp.unset ∧
      ∃ (front : List (FramePart × Bytes)) (keyspace : Bytes),
        (frame left).write .standard = .ok (front ++ [(.other, []), (.other, keyspace)]) ∧
        (frame left).encode .standard = .ok (front.flatMap (·.2) ++ keyspace) := by
  intro session attempts frame
  have hdrawn : attempts.map (·.drawn) = [[], [0], [], [1], [2]] := rfl
  obtain ⟨-, -, hattempts⟩ := session.timestamps_of_run mixedRequests
  have hnumber {attempt : Attempt} {request : Request} {place : Nat} (hmem : attempt ∈ attempts)
      (hunset : attempt.statement.attributes.timestamp = Timestamp.unset)
      (hplace : attempt.drawn = [place]) (hmade : attempt.outcome = .ok request) :
      request.timestamp = session.timestamps.sequence place := by
    obtain ⟨found, hfound, htime⟩ := ((hattempts attempt hmem).2.2 request hmade).2.1 hunset
    rw [htime, List.singleton_inj.mp (hfound.symm.trans hplace)]
  -- The third request and its frame.
  obtain ⟨third, own, bytes, hthird, hgiven, hown, hownBytes⟩ : ∃ third own bytes,
      attempts[2]? = some third ∧ third.statement.attributes.timestamp = 7 ∧
      third.outcome = .ok own ∧ (frame own).encode .standard = .ok bytes :=
    ⟨_, _, _, rfl, rfl, rfl, rfl⟩
  obtain ⟨hkept, -, hframe⟩ := (hattempts third (List.mem_of_getElem? hthird)).2.2 own hown
  have hownTime : own.timestamp = 7 := (hkept (by rw [hgiven]; decide)).trans hgiven
  have hset : own.timestamp ≠ Timestamp.unset := by
    rw [hownTime]
    decide
  obtain ⟨front, stamp, keyspace, hwrite, rfl, hlength, -, hread⟩ := hframe _ _ _ rfl hownBytes
  have hvalue : stamp.toInt = 7 := by
    rw [hread hset, hownTime]
    rfl
  -- The fourth request.
  obtain ⟨fourth, taken, hfourth, hunset, hplace, htaken⟩ : ∃ fourth taken,
      attempts[3]? = some fourth ∧ fourth.statement.attributes.timestamp = Timestamp.unset ∧
      fourth.drawn = [1] ∧ fourth.outcome = .ok taken := ⟨_, _, rfl, rfl, rfl, rfl⟩
  have htakenTime : taken.timestamp = Int64.maxValue :=
    (hnumber (List.mem_of_getElem? hfourth) hunset hplace htaken).trans (by decide)
  -- The fifth request and its frame.
  obtain ⟨fifth, left, bytes, hfifth, hunset, hplace, hleft, hleftBytes⟩ : ∃ fifth left bytes,
      attempts[4]? = some fifth ∧ fifth.statement.attributes.timestamp = Timestamp.unset ∧
      fifth.drawn = [2] ∧ fifth.outcome = .ok left ∧
      (frame left).encode .standard = .ok bytes := ⟨_, _, _, rfl, rfl, rfl, rfl, rfl⟩
  have hleftTime : left.timestamp = Timestamp.unset :=
    (hnumber (List.mem_of_getElem? hfifth) hunset hplace hleft).trans (by decide)
  obtain ⟨-, -, hframe⟩ := (hattempts fifth (List.mem_of_getElem? hfifth)).2.2 left hleft
  obtain ⟨front', stamp', keyspace', hwrite', hbytes, -, hnone, -⟩ := hframe _ _ _ rfl hleftBytes
  obtain rfl := hnone.mpr hleftTime
  rw [hbytes, List.append_nil] at hleftBytes
  exact ⟨hdrawn, own, taken, left, by rw [hthird, Option.map_some, hown], hownTime,
    ⟨front, stamp, keyspace, hwrite, hownBytes, hlength.mpr hset, hvalue⟩,
    by rw [hfourth, Option.map_some, htaken], htakenTime,
    by rw [hfifth, Option.map_some, hleft], hleftTime, front', keyspace', hwrite', hleftBytes⟩

end Session

end CqlWire
