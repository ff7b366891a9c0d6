import CqlWire.Proofs.Outcome
import CqlWire.Session

/-!
# Making prepared statements

An answer to a preparation is taken in exactly if the types of all its columns are known
(`Session.prepare_eq_ok_iff`).  The prepared statement gets the next handle, and nothing else of the
session changes.
-/

namespace CqlWire

/-- The prepared statement that an answer describes, with its columns. -/
def PrepareRequest.preparedOf (request : PrepareRequest) (codecs : CodecRegistry)
    (version : ProtocolVersion) (response : PreparedAnswer) (handle : Nat)
    (markers columns : Columns) : PreparedStatement :=
  { handle
    id := response.id
    query := request.query
    markers
    partitionKey := response.markers.partitionKey.map UInt16.toNat
    preparedShape := { id := response.resultMetadataId, columns }
    boundDefaults := request.boundDefaults
    customPayload := request.attributes.customPayload
    codecs
    version }

/-- The session after a handle was given out. -/
def Session.withNextHandle (session : Session) : Session :=
  { session with shapes := { session.shapes with handles := session.shapes.handles + 1 } }

theorem Session.prepare_eq_ok_iff {session later : Session} {request : PrepareRequest}
    {response : PreparedAnswer} {prepared : PreparedStatement} :
    session.prepare request response = .ok (prepared, later) ↔
      ∃ markers columns, response.markers.columns = .ok markers ∧
        response.result.columns = .ok columns ∧
        prepared = request.preparedOf session.context.codecs session.context.version response
          session.shapes.handles markers columns ∧
        later = session.withNextHandle := by
  unfold prepare PrepareRequest.accept
  cases response.markers.columns with
  | error fault => exact iff_of_false nofun fun ⟨_, _, h, _⟩ => nomatch h
  | ok markers =>
    cases response.result.columns with
    | error fault => exact iff_of_false nofun fun ⟨_, _, _, h, _⟩ => nomatch h
    | ok columns =>
      constructor
      · rintro ⟨⟩
        exact ⟨markers, columns, rfl, rfl, rfl, rfl⟩
      · rintro ⟨_, _, ⟨⟩, ⟨⟩, rfl, rfl⟩
        rfl

end CqlWire
