import CqlWire.Proofs.Codec.Canonical
import CqlWire.Proofs.Session.Receive
import CqlWire.Proofs.Statement.ByName

/-!
# Pages and their rows

A page hands out the rows that were sent, in their order and each once, and then none any more,
however often it is asked (`ResultPage.after_eq`).  A row may have more or fewer cells than there
are columns, and two columns may have one name, so reading a cell looks at the cell first, then for
a column and for a codec of its type (`Row.get_eq_iff_reads`).

`Session.pages_of_receive` tells for each answer whether there is a page, what it hands out, and
what is read from any row.
-/

namespace CqlWire

/-! ### Columns of a name -/

namespace Columns

variable {columns : Columns} {name : String} {index : Nat}

/-- Whether the column at an index is the first one of a name. -/
def IsFirstNamed (columns : Columns) (name : String) (index : Nat) : Prop :=
  columns.IsNamed name index ∧ ∀ earlier < index, ¬ columns.IsNamed name earlier

theorem indexOf?_eq_some_iff :
    columns.indexOf? name = some index ↔ columns.IsFirstNamed name index := by
  rw [indexOf?, List.findIdx?_eq_some_iff_getElem]
  simp only [decide_eq_true_eq]
  constructor
  · rintro ⟨hindex, hname, hearlier⟩
    refine ⟨⟨_, List.getElem?_eq_getElem hindex, hname⟩, fun earlier hlt ⟨other, hother, h⟩ => ?_⟩
    obtain ⟨_, rfl⟩ := List.getElem?_eq_some_iff.mp hother
    exact hearlier earlier hlt h
  · rintro ⟨⟨column, hcolumn, hname⟩, hearlier⟩
    obtain ⟨hindex, rfl⟩ := List.getElem?_eq_some_iff.mp hcolumn
    refine ⟨hindex, hname, fun earlier hlt h => hearlier earlier hlt ?_⟩
    exact ⟨_, List.getElem?_eq_getElem (hlt.trans hindex), h⟩

theorem indexOf?_eq_none_iff :
    columns.indexOf? name = none ↔ ∀ column ∈ columns, column.name ≠ name := by
  rw [indexOf?, List.findIdx?_eq_none_iff]
  simp only [decide_eq_false_iff_not, ne_eq]

end Columns

/-! ### Cells -/

/-- A codec reads values of its own kind. -/
theorem Codec.kind_of_decode {codec : Codec} {bytes : Bytes} {value : Value}
    (h : codec.decode bytes = .ok value) : codec.kind = value.kind := by
  have hwritten : ∃ form, codec.encode value = .ok form := by
    by_cases hcodec : codec = .varint
    · obtain ⟨form, hform, -⟩ := exists_encode_varint_of_decode (hcodec ▸ h)
      exact ⟨form, hcodec ▸ hform⟩
    · exact ⟨bytes, encode_eq_ok_of_decode hcodec h⟩
  obtain ⟨form, hform⟩ := hwritten
  by_contra hkind
  exact nomatch hform.symm.trans (encode_eq_error_of_kind_ne hkind)

/-- Whether no codec that a registry has for columns reads null from bytes. -/
def CodecRegistry.NeverReadsNull (codecs : CodecRegistry) : Prop :=
  ∀ type codec bytes version, codecs.forType type = .ok codec →
    codec.decode bytes version ≠ .ok .null

theorem CodecRegistry.neverReadsNull_standard : standard.NeverReadsNull := by
  intro type found bytes version hfound hnull
  obtain ⟨codec, -, rfl⟩ := forType_standard_eq_ok_iff.mp hfound
  have hkind := Codec.kind_of_decode hnull
  cases codec <;> exact nomatch hkind

/-- What is read of the cell at an index. -/
inductive Row.Reads (row : Row) (index : Nat) : Except ClientError Value → Prop
  | absent (habsent : row.cells.length ≤ index) :
    Reads row index (.error (.invalidArgument (.noCellAt index row.cells.length)))
  | null (hcell : row.cells[index]? = some none) : Reads row index (.ok .null)
  | undefined {bytes : Bytes} (hcell : row.cells[index]? = some (some bytes))
      (hundefined : row.columns.length ≤ index) :
    Reads row index (.error (.protocolViolation (.noDefinitionAt index)))
  | noCodec {bytes : Bytes} {column : Column} {error : CodecError}
      (hcell : row.cells[index]? = some (some bytes))
      (hcolumn : row.columns[index]? = some column)
      (hnone : row.codecs.forType column.type = .error error) :
    Reads row index (.error (.codec error))
  | decoded {bytes : Bytes} {column : Column} {codec : ValueCodec} {value : Value}
      (hcell : row.cells[index]? = some (some bytes))
      (hcolumn : row.columns[index]? = some column)
      (hcodec : row.codecs.forType column.type = .ok codec)
      (hvalue : codec.decode bytes row.version = .ok value) :
    Reads row index (.ok value)
  | undecodable {bytes : Bytes} {column : Column} {codec : ValueCodec} {error : CodecError}
      (hcell : row.cells[index]? = some (some bytes))
      (hcolumn : row.columns[index]? = some column)
      (hcodec : row.codecs.forType column.type = .ok codec)
      (herror : codec.decode bytes row.version = .error error) :
    Reads row index (.error (.codec error))

namespace Row

variable {row : Row} {index : Nat} {bytes : Bytes} {column : Column}
  {outcome : Except ClientError Value}

theorem get_of_cell (hcell : row.cells[index]? = some (some bytes))
    (hcolumn : row.columns[index]? = some column) :
    row.get index = (row.codecs.forType column.type >>= fun codec =>
      codec.decode bytes row.version).mapError ClientError.codec := by
  unfold get
  rw [hcell, hcolumn]

theorem get_of_reads (h : row.Reads index outcome) : row.get index = outcome := by
  cases h with
  | absent habsent => rw [get, List.getElem?_eq_none habsent]
  | null hcell => rw [get, hcell]
  | undefined hcell hundefined => rw [get, hcell, List.getElem?_eq_none hundefined]
  | noCodec hcell hcolumn hnone =>
    rw [get_of_cell hcell hcolumn, hnone]
    rfl
  | decoded hcell hcolumn hcodec hvalue =>
    rw [get_of_cell hcell hcolumn, hcodec]
    exact mapError_eq_ok_iff.mpr hvalue
  | undecodable hcell hcolumn hcodec herror =>
    rw [get_of_cell hcell hcolumn, hcodec]
    exact mapError_eq_error_iff.mpr ⟨_, herror, rfl⟩

/-- Each cell is read in one of these ways. -/
theorem exists_reads (row : Row) (index : Nat) : ∃ outcome, row.Reads index outcome := by
  match hcell : row.cells[index]? with
  | none => exact ⟨_, .absent (List.getElem?_eq_none_iff.mp hcell)⟩
  | some none => exact ⟨_, .null hcell⟩
  | some (some bytes) =>
    match hcolumn : row.columns[index]? with
    | none => exact ⟨_, .undefined hcell (List.getElem?_eq_none_iff.mp hcolumn)⟩
    | some column =>
      match hcodec : row.codecs.forType column.type with
      | .error error => exact ⟨_, .noCodec hcell hcolumn hcodec⟩
      | .ok codec =>
        match hdecoded : codec.decode bytes row.version with
        | .ok value => exact ⟨_, .decoded hcell hcolumn hcodec hdecoded⟩
        | .error error => exact ⟨_, .undecodable hcell hcolumn hcodec hdecoded⟩

theorem get_eq_iff_reads : row.get index = outcome ↔ row.Reads index outcome := by
  refine ⟨?_, get_of_reads⟩
  rintro rfl
  obtain ⟨outcome, h⟩ := row.exists_reads index
  exact get_of_reads h ▸ h

theorem get_eq_invalidArgument_iff {fault : ArgumentFault} :
    row.get index = .error (.invalidArgument fault) ↔
      row.cells.length ≤ index ∧ fault = .noCellAt index row.cells.length := by
  rw [get_eq_iff_reads]
  constructor
  · rintro ⟨⟩
    next habsent => exact ⟨habsent, rfl⟩
  · rintro ⟨habsent, rfl⟩
    exact .absent habsent

/-- Only the cell decides whether null is read, if no codec reads null. -/
theorem get_eq_null_iff (hnever : row.codecs.NeverReadsNull) :
    row.get index = .ok .null ↔ row.cells[index]? = some none := by
  rw [get_eq_iff_reads]
  constructor
  · intro h
    cases h with
    | null hcell => exact hcell
    | decoded _ _ hcodec hvalue => exact absurd hvalue (hnever _ _ _ _ hcodec)
  · exact .null

theorem get_eq_protocolViolation_iff {fault : ProtocolFault} :
    row.get index = .error (.protocolViolation fault) ↔
      (∃ bytes, row.cells[index]? = some (some bytes)) ∧ row.columns.length ≤ index ∧
        fault = .noDefinitionAt index := by
  rw [get_eq_iff_reads]
  constructor
  · intro h
    cases h with
    | undefined hcell hundefined => exact ⟨⟨_, hcell⟩, hundefined, rfl⟩
  · rintro ⟨⟨bytes, hcell⟩, hundefined, rfl⟩
    exact .undefined hcell hundefined

/-- The value in the first column of a name is read, and nothing if there is none. -/
theorem getByName_eq_get {name : String} (h : row.columns.IsFirstNamed name index) :
    row.getByName name = row.get index := by
  rw [getByName, Columns.indexOf?_eq_some_iff.mpr h]

theorem getByName_of_not_named {name : String} (h : ∀ column ∈ row.columns, column.name ≠ name) :
    row.getByName name = .error (.invalidArgument (.noColumnNamed name)) := by
  rw [getByName, Columns.indexOf?_eq_none_iff.mpr h]

end Row

/-! ### Handing out rows -/

namespace ResultPage

/-- The page that is left after it was asked for so many rows. -/
def after (page : ResultPage) : Nat → ResultPage
  | 0 => page
  | count + 1 => page.next.2.after count

/-- Asking for a row leaves all but the first one. -/
theorem next_snd (page : ResultPage) : page.next.2 = { page with rows := page.rows.tail } := by
  obtain ⟨columns, info, rows, codecs, version⟩ := page
  cases rows with
  | nil => rfl
  | cons cells rows => rfl

/-- Whatever a page was asked for, only its rows become fewer. -/
theorem after_eq (page : ResultPage) (count : Nat) :
    page.after count = { page with rows := page.rows.drop count } := by
  induction count generalizing page with
  | zero => rfl
  | succ count ih => rw [after, ih, next_snd, List.drop_tail]

theorem next_after (page : ResultPage) (count : Nat) :
    (page.after count).next.1 = page.nth? count := by
  induction count generalizing page with
  | zero => rfl
  | succ count ih => exact ih page.next.2

theorem remaining_after (page : ResultPage) (count : Nat) :
    (page.after count).remaining = page.remaining - count := by
  rw [after_eq, remaining, remaining, List.length_drop]

end ResultPage

/-- Whether an answer only says that something was done. -/
def ResultAnswer.IsAcknowledgement : ResultAnswer → Prop
  | void => True
  | setKeyspace _ => True
  | schemaChange _ _ _ _ => True
  | rows _ _ => False
  | prepared _ => False

namespace Session

theorem receive_of_isAcknowledgement {answer : ResultAnswer} (h : answer.IsAcknowledgement)
    (session : Session) (execution : Execution) :
    session.receive execution answer
      = .ok (.acknowledgement session.context execution, session) := by
  cases answer with
  | void => rfl
  | setKeyspace keyspace => rfl
  | schemaChange change target keyspace object => rfl
  | rows metadata data => exact h.elim
  | prepared response => exact h.elim

/-- **A page hands out the rows that were sent, each once, and each cell is read by the column at
its place.**  There is no page for the answer to a preparation.  An acknowledgement has no rows and
no columns, and keeps the execution as it was.  Rows whose columns are known are handed out in their
order, and then none any more; there are more pages exactly if this answer has a cursor.  Of any
row, no cell is read beyond its end; of a cell that is null, null is read, also where there is no
column or no codec, and of no other cell, unless a codec reads null from bytes, which none of the
standard registry does; a cell with bytes needs a column, and is read by the codec that the registry
has for its type.  A name stands for the first column that has it. -/
theorem pages_of_receive (session : Session) (execution : Execution) :
    (∀ response, session.receive execution (.prepared response)
      = .error (.protocolViolation .unexpectedPrepared)) ∧
    (∀ answer, answer.IsAcknowledgement →
      ∃ page, session.receive execution answer = .ok (page, session) ∧ page.columns = [] ∧
        page.info = execution ∧
        ∀ count, (page.after count).next.1 = none ∧ (page.after count).remaining = 0) ∧
    (∀ metadata data,
      (∀ error, resultColumns session.shapes execution.statement metadata = .error error →
        session.receive execution (.rows metadata data) = .error error) ∧
      ∀ columns shapes,
        resultColumns session.shapes execution.statement metadata = .ok (columns, shapes) →
        ∃ page,
          session.receive execution (.rows metadata data) = .ok (page, { session with shapes }) ∧
          page.columns = columns ∧
          ∀ count,
            (page.after count).next.1 = data[count]?.map (fun cells =>
              { columns, cells, codecs := session.context.codecs,
                version := session.context.version }) ∧
            (page.after count).remaining = data.length - count ∧
            ((page.after count).hasMorePages ↔ ∃ cursor, metadata.pagingState = some cursor)) ∧
    CodecRegistry.standard.NeverReadsNull ∧
    ∀ row : Row,
      (∀ index,
        (∀ fault, row.get index = .error (.invalidArgument fault) ↔
          row.cells.length ≤ index ∧ fault = .noCellAt index row.cells.length) ∧
        (row.cells[index]? = some none → row.get index = .ok .null) ∧
        (row.codecs.NeverReadsNull →
          (row.get index = .ok .null ↔ row.cells[index]? = some none)) ∧
        (∀ fault, row.get index = .error (.protocolViolation fault) ↔
          (∃ bytes, row.cells[index]? = some (some bytes)) ∧ row.columns.length ≤ index ∧
            fault = .noDefinitionAt index) ∧
        ∀ bytes column, row.cells[index]? = some (some bytes) →
          row.columns[index]? = some column →
          (∀ error, row.codecs.forType column.type = .error error →
            row.get index = .error (.codec error)) ∧
          ∀ codec, row.codecs.forType column.type = .ok codec →
            row.get index = (codec.decode bytes row.version).mapError .codec) ∧
      ∀ name,
        (∀ index, row.columns.IsFirstNamed name index →
          row.getByName name = row.get index) ∧
        ((∀ column ∈ row.columns, column.name ≠ name) →
          row.getByName name = .error (.invalidArgument (.noColumnNamed name))) := by
  refine ⟨fun response => rfl, fun answer hanswer => ?_, fun metadata data => ⟨?_, ?_⟩,
    CodecRegistry.neverReadsNull_standard,
    fun row => ⟨fun index => ⟨fun fault => Row.get_eq_invalidArgument_iff,
      fun hnull => Row.get_of_reads (.null hnull), Row.get_eq_null_iff,
      fun fault => Row.get_eq_protocolViolation_iff, ?_⟩,
      fun name => ⟨fun index => Row.getByName_eq_get, Row.getByName_of_not_named⟩⟩⟩
  · refine ⟨_, receive_of_isAcknowledgement hanswer session execution, rfl, rfl, fun count => ?_⟩
    rw [ResultPage.next_after, ResultPage.nth?_eq, ResultPage.remaining_after]
    exact ⟨rfl, Nat.zero_sub count⟩
  · intro error herror
    rw [receive, ResultAnswer.toPage, herror]
    rfl
  · intro columns shapes hcolumns
    refine ⟨_, receive_rows_eq_ok_iff.mpr ⟨_, _, hcolumns, rfl, rfl⟩, rfl, fun count => ?_⟩
    refine ⟨?_, ?_, ?_⟩
    · rw [ResultPage.next_after, ResultPage.nth?_eq]
      rfl
    · exact ResultPage.remaining_after _ count
    · rw [ResultPage.after_eq]
      exact Option.isSome_iff_exists
  · intro bytes column hcell hcolumn
    rw [Row.get_of_cell hcell hcolumn]
    refine ⟨fun error hnone => ?_, fun codec hcodec => ?_⟩
    · rw [hnone]
      rfl
    · rw [hcodec]
      rfl

/-- Two columns of one name, and a third one of a type without a codec. -/
def unevenColumns : MetadataBlock where
  descriptions := [⟨"k", "t", "a", 0, .native 0x09⟩, ⟨"k", "t", "a", 1, .native 0x04⟩,
    ⟨"k", "t", "b", 2, .native 0x15⟩]

/-- A row with more cells than columns. -/
def unevenRow : Row where
  columns := [⟨"k", "t", "a", .native .int⟩, ⟨"k", "t", "a", .native .boolean⟩,
    ⟨"k", "t", "b", .native .duration⟩]
  cells := [some [0, 0, 0, 7], some [0xFF], none, some []]
  codecs := .standard
  version := .v4

/-- The row is the last one, behind one without cells.  Its null is read although the column has no
codec, and its last cell is not read although it is there.  There are no more pages, whatever was
known before. -/
theorem pages_of_receive_of_unevenRow :
    let session : Session := { context := { version := .v4 }, timestamps := .serverSide }
    let execution : Execution := { statement := .simple { query := "q" }, pagingState := some [1] }
    (∃ page,
      session.receive execution (.rows unevenColumns [[], unevenRow.cells]) = .ok (page, session) ∧
      (page.after 1).next.1 = some unevenRow ∧ (page.after 1).remaining = 1 ∧
      (∀ count, 2 ≤ count → (page.after count).next.1 = none) ∧ ¬ page.hasMorePages) ∧
    unevenRow.getByName "a" = .ok (.int 7) ∧
    unevenRow.get 1 = .error (.codec (.invalidBoolean 0xFF)) ∧
    unevenRow.get 2 = .ok .null ∧
    unevenRow.get 3 = .error (.protocolViolation (.noDefinitionAt 3)) ∧
    unevenRow.get 4 = .error (.invalidArgument (.noCellAt 4 4)) ∧
    unevenRow.getByName "c" = .error (.invalidArgument (.noColumnNamed "c")) := by
  intro session execution
  obtain ⟨-, -, hrows, hnever, hread⟩ := pages_of_receive session execution
  have hcolumns : resultColumns session.shapes execution.statement unevenColumns
      = .ok (unevenRow.columns, session.shapes) := rfl
  obtain ⟨page, hpage, -, hafter⟩ :=
    (hrows unevenColumns [[], unevenRow.cells]).2 _ _ hcolumns
  obtain ⟨hcells, hnames⟩ := hread unevenRow
  refine ⟨⟨page, hpage, (hafter 1).1, (hafter 1).2.1, fun count hcount => ?_, fun hmore => ?_⟩,
    ?_, ?_, ((hcells 2).2.2.1 hnever).mpr rfl,
    ((hcells 3).2.2.2.1 _).mpr ⟨⟨_, rfl⟩, le_rfl, rfl⟩, ((hcells 4).1 _).mpr ⟨le_rfl, rfl⟩,
    (hnames "c").2 (by decide)⟩
  · rw [(hafter count).1, List.getElem?_eq_none hcount]
    rfl
  · obtain ⟨cursor, hcursor⟩ := (hafter 0).2.2.mp hmore
    exact nomatch hcursor
  · have hseven : Codec.int.decode [0, 0, 0, 7] = .ok (.int 7) := Codec.decode_eq_ok_of_encode rfl
    rw [(hnames "a").1 0 ⟨⟨_, rfl, rfl⟩, nofun⟩,
      ((hcells 0).2.2.2.2 _ _ rfl rfl).2 Codec.int.toValueCodec rfl]
    exact congrArg (Except.mapError ClientError.codec) hseven
  · exact ((hcells 1).2.2.2.2 _ _ rfl rfl).2 Codec.boolean.toValueCodec rfl

end Session

end CqlWire
