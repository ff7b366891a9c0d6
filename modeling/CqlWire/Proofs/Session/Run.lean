import CqlWire.Session

/-!
# Runs of sessions

What is done with a session, one step after the other, in any order: statements are prepared,
requests are made, and answers are received.  Any interleaving of executions is such a run, since
making a request and receiving its answer are two steps.
-/

namespace CqlWire

/-- What is done with a session in one step. -/
inductive SessionStep where
  /-- The answer to a request to prepare a query is taken in. -/
  | prepare (request : PrepareRequest) (response : PreparedAnswer)
  /-- The request of a statement is made. -/
  | make (profile : Profile) (statement : Statement)
  /-- The answer to a request is taken in. -/
  | receive (execution : Execution) (answer : ResultAnswer)

/-- What an operation leaves behind; one that fails changes nothing. -/
def stateAfter {σ α : Type} (state : σ) : Except ClientError (α × σ) → σ
  | .ok (_, later) => later
  | .error _ => state

namespace Session

/-- The session after a step.  A request that can not be made may still have taken a timestamp. -/
def step (session : Session) : SessionStep → Session
  | .prepare request response => stateAfter session (session.prepare request response)
  | .make profile statement => (session.makeRequest profile statement).2
  | .receive execution answer => stateAfter session (session.receive execution answer)

/-- The session after a run. -/
def run (session : Session) (steps : List SessionStep) : Session :=
  steps.foldl step session

@[simp] theorem run_cons (session : Session) (first : SessionStep) (steps : List SessionStep) :
    session.run (first :: steps) = (session.step first).run steps := rfl

/-! ### What making a request leaves alone -/

theorem takeTimestamp_shapes (session : Session) (statement : Statement) :
    (session.takeTimestamp statement).2.shapes = session.shapes := by
  unfold takeTimestamp
  split <;> rfl

/-- Making a request changes no shapes, whether it succeeds or not. -/
theorem makeRequest_shapes (session : Session) (profile : Profile) (statement : Statement) :
    (session.makeRequest profile statement).2.shapes = session.shapes := by
  unfold makeRequest
  cases RequestSettings.ofProfile profile with
  | error error => rfl
  | ok settings => exact session.takeTimestamp_shapes statement

end Session

end CqlWire
