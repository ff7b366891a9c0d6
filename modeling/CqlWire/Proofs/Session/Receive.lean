import CqlWire.Proofs.Schema.Resolution
import CqlWire.Session

/-!
# Taking in rows

Rows are taken in when it is known which columns they have (`resultColumns_eq_ok_iff`): those that
come with them, if all their types are known, or else those of the prepared statement.  Only rows
that come with columns and with a new id for them, for a bound statement, change anything in a
session.  The rows are kept as they were sent and handed out one after the other
(`Session.receive_rows_eq_ok_iff`, `ResultPage.nth?_eq`).
-/

namespace CqlWire

/-! ### Columns -/

/-- When the columns of rows are known, which ones they are, and which shapes are current then. -/
theorem resultColumns_eq_ok_iff {shapes later : ShapeRegister} {statement : Statement}
    {metadata : MetadataBlock} {columns : Columns} :
    resultColumns shapes statement metadata = .ok (columns, later) ↔
      (metadata.descriptions = [] ∧ later = shapes ∧ ∃ bound, statement = .bound bound ∧
        columns = (shapes.current bound.prepared).columns) ∨
      (metadata.descriptions ≠ [] ∧ metadata.columns = .ok columns ∧
        (metadata.newResultMetadataId = none ∧ later = shapes ∨
          ∃ bound id, statement = .bound bound ∧ metadata.newResultMetadataId = some id ∧
            later = shapes.report bound.prepared id columns)) := by
  unfold resultColumns
  by_cases hempty : metadata.descriptions = []
  · rw [if_pos (List.isEmpty_iff.mpr hempty)]
    cases statement <;> simp [hempty, eq_comm, and_comm]
  · rw [if_neg (List.isEmpty_iff.not.mpr hempty), bind_eq_ok_iff]
    simp only [mapError_eq_ok_iff, hempty, false_and, false_or, ne_eq, not_false_eq_true, true_and]
    constructor
    · rintro ⟨found, hfound, h⟩
      split at h
      · next hid =>
        obtain ⟨⟩ := Except.ok.inj h
        exact ⟨hfound, .inl ⟨hid, rfl⟩⟩
      · next id bound hid =>
        obtain ⟨⟩ := Except.ok.inj h
        exact ⟨hfound, .inr ⟨bound, id, rfl, hid, rfl⟩⟩
      · exact nomatch h
    · rintro ⟨hfound, ⟨hid, rfl⟩ | ⟨bound, id, rfl, hid, rfl⟩⟩
      · exact ⟨columns, hfound, by rw [hid]; rfl⟩
      · exact ⟨columns, hfound, by rw [hid]; rfl⟩

/-! ### Rows -/

/-- The row that is handed out after so many others. -/
def ResultPage.nth? (page : ResultPage) : Nat → Option Row
  | 0 => page.next.1
  | count + 1 => page.next.2.nth? count

theorem ResultPage.nth?_eq (page : ResultPage) (count : Nat) :
    page.nth? count = page.rows[count]?.map page.rowOf := by
  obtain ⟨columns, info, rows, codecs, version⟩ := page
  induction count generalizing rows with
  | zero => cases rows <;> rfl
  | succ count ih =>
    cases rows with
    | nil => exact ih []
    | cons cells rows => exact ih rows

namespace Session

variable {session later : Session} {execution : Execution} {metadata : MetadataBlock}
  {data : List (List (Option Bytes))} {page : ResultPage}

/-- A page has the rows and the cursor that were sent. -/
theorem receive_rows_eq_ok_iff :
    session.receive execution (.rows metadata data) = .ok (page, later) ↔
      ∃ columns shapes,
        resultColumns session.shapes execution.statement metadata = .ok (columns, shapes) ∧
        page = { columns, info := { execution with pagingState := metadata.pagingState },
                 rows := data, codecs := session.context.codecs,
                 version := session.context.version } ∧
        later = { session with shapes } := by
  rw [receive, ResultAnswer.toPage]
  cases resultColumns session.shapes execution.statement metadata with
  | error error => exact iff_of_false nofun fun ⟨_, _, h, _⟩ => nomatch h
  | ok outcome =>
    constructor
    · rintro ⟨⟩
      exact ⟨outcome.1, outcome.2, rfl, rfl, rfl⟩
    · rintro ⟨_, _, ⟨⟩, rfl, rfl⟩
      rfl

/-- Rows are read in columns of the types that were described with them. -/
theorem columns_of_receive_rows {other : MetadataBlock} {columns : Columns}
    (h : session.receive execution (.rows metadata data) = .ok (page, later))
    (htypes : metadata.descriptions.map (·.type) = other.descriptions.map (·.type))
    (hother : other.columns = .ok columns) {i : Nat} {column : Column}
    (hcolumn : columns[i]? = some column) :
    ∃ found, page.columns[i]? = some found ∧ found.type = column.type := by
  obtain ⟨described, hfound, hsame⟩ := MetadataBlock.exists_columns_eq_ok htypes hother
  obtain ⟨found, hi, htype⟩ := exists_column_of_types_eq hsame hcolumn
  -- There is a column, so there is a description.
  have hdescribed : metadata.descriptions ≠ [] := by
    intro hnone
    rw [MetadataBlock.columns, hnone, List.mapM_nil] at hfound
    obtain rfl := Except.ok.inj hfound
    exact absurd hi (by simp)
  obtain ⟨_, _, hread, rfl, rfl⟩ := receive_rows_eq_ok_iff.mp h
  rcases resultColumns_eq_ok_iff.mp hread with ⟨hnone, -⟩ | ⟨-, hread, -⟩
  · exact absurd hnone hdescribed
  · obtain rfl := Except.ok.inj (hfound.symm.trans hread)
    exact ⟨found, hi, htype⟩

/-- Rows of a bound statement are read if the types of their columns are known. -/
theorem exists_receive_rows_eq_ok {bound : BoundStatement} {columns : Columns}
    (hexecution : execution.statement = .bound bound) (hcolumns : metadata.columns = .ok columns) :
    ∃ outcome, session.receive execution (.rows metadata data) = .ok outcome := by
  obtain ⟨⟨found, shapes⟩, hread⟩ :
      ∃ outcome, resultColumns session.shapes execution.statement metadata = .ok outcome := by
    by_cases hempty : metadata.descriptions = []
    · exact ⟨(_, _), resultColumns_eq_ok_iff.mpr (.inl ⟨hempty, rfl, bound, hexecution, rfl⟩)⟩
    · cases hid : metadata.newResultMetadataId with
      | none =>
        exact ⟨(_, _), resultColumns_eq_ok_iff.mpr (.inr ⟨hempty, hcolumns, .inl ⟨hid, rfl⟩⟩)⟩
      | some id =>
        exact ⟨(_, _), resultColumns_eq_ok_iff.mpr
          (.inr ⟨hempty, hcolumns, .inr ⟨bound, id, hexecution, hid, rfl⟩⟩)⟩
  exact ⟨_, receive_rows_eq_ok_iff.mpr ⟨_, _, hread, rfl, rfl⟩⟩

end Session

end CqlWire
