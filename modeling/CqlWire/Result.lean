import CqlWire.Context
import CqlWire.Network.Node

/-!
# Results

The answer to a request as a page of rows.  The columns of a page come from the answer itself, or,
where the server left them out, from the prepared statement; an answer may also report a new shape
for the results of the prepared statement (`resultColumns`).

Rows are handed out in the order of the server, each once (`ResultPage.next`).  A cell is read with
the codec that the registry of the page has for its column.
-/

namespace CqlWire

/-- A RESULT answer of the server. -/
inductive ResultAnswer where
  | void
  /-- Rows: for each, one cell per column, of which none stands for null. -/
  | rows (metadata : MetadataBlock) (data : List (List (Option Bytes)))
  | setKeyspace (keyspace : String)
  | prepared (response : PreparedAnswer)
  | schemaChange (change target keyspace : String) (object : Option String)
  deriving Repr, Inhabited

/-- How a request was executed. -/
structure Execution where
  statement : Statement
  coordinator : Option Node := none
  /-- The cursor of the next page, if there is one. -/
  pagingState : Option Bytes := none
  warnings : List String := []

/-! ### Columns of a result -/

/-- The columns of a rows answer, and the shapes that are current afterwards. -/
def resultColumns (shapes : ShapeRegister) (statement : Statement) (metadata : MetadataBlock) :
    Except ClientError (Columns × ShapeRegister) :=
  if metadata.descriptions.isEmpty then
    match statement with
    | .bound bound => .ok ((shapes.current bound.prepared).columns, shapes)
    | _ => .error (.protocolViolation .rowsWithoutMetadata)
  else do
    let columns ← metadata.columns.mapError ClientError.protocolViolation
    match metadata.newResultMetadataId, statement with
    | none, _ => return (columns, shapes)
    | some id, .bound bound => return (columns, shapes.report bound.prepared id columns)
    | some _, _ => throw (.protocolViolation .unexpectedMetadataId)

/-! ### Rows -/

/-- A row. -/
structure Row where
  columns : Columns
  cells : List (Option Bytes)
  /-- The codecs with which the cells are read. -/
  codecs : CodecRegistry
  version : ProtocolVersion

namespace Row

/-- Whether the row has a cell at an index and that cell is null. -/
def isNull (row : Row) (index : Nat) : Bool :=
  row.cells[index]? = some none

/-- The bytes of a cell, if there is such a cell and it is not null. -/
def bytes? (row : Row) (index : Nat) : Option Bytes :=
  (row.cells[index]?).join

/-- The value of the cell at an index.  A null cell is read without looking at its column. -/
def get (row : Row) (index : Nat) : Except ClientError Value :=
  match row.cells[index]? with
  | none => .error (.invalidArgument (.noCellAt index row.cells.length))
  | some none => .ok .null
  | some (some bytes) =>
    match row.columns[index]? with
    | none => .error (.protocolViolation (.noDefinitionAt index))
    | some column =>
      (do (← row.codecs.forType column.type).decode bytes row.version).mapError ClientError.codec

/-- The value of the cell in the first column of a given name. -/
def getByName (row : Row) (name : String) : Except ClientError Value :=
  match row.columns.indexOf? name with
  | none => .error (.invalidArgument (.noColumnNamed name))
  | some index => row.get index

end Row

/-! ### Pages -/

/-- One page of rows. -/
structure ResultPage where
  columns : Columns
  info : Execution
  /-- The rows that have not been handed out yet. -/
  rows : List (List (Option Bytes))
  codecs : CodecRegistry
  version : ProtocolVersion

namespace ResultPage

/-- A page without rows and columns, for requests that are only acknowledged. -/
def acknowledgement (context : Context) (info : Execution) : ResultPage :=
  { columns := [], info, rows := [], codecs := context.codecs, version := context.version }

/-- The number of rows that have not been handed out yet. -/
def remaining (page : ResultPage) : Nat := page.rows.length

/-- Whether the server has more rows than those of this page. -/
def hasMorePages (page : ResultPage) : Bool := page.info.pagingState.isSome

/-- A row of the page. -/
def rowOf (page : ResultPage) (cells : List (Option Bytes)) : Row :=
  { columns := page.columns, cells, codecs := page.codecs, version := page.version }

/-- Hands out the next row, if there is one. -/
def next (page : ResultPage) : Option Row × ResultPage :=
  match page.rows with
  | [] => (none, page)
  | cells :: rows => (some (page.rowOf cells), { page with rows })

end ResultPage

/-- The page that an answer stands for, and the shapes that are current afterwards.  A page of rows
has the cursor of its own answer; an acknowledgement keeps the one it was given. -/
def ResultAnswer.toPage (context : Context) (shapes : ShapeRegister) (info : Execution) :
    ResultAnswer → Except ClientError (ResultPage × ShapeRegister)
  | rows metadata data => do
    let (columns, shapes) ← resultColumns shapes info.statement metadata
    let page := {
      columns
      info := { info with pagingState := metadata.pagingState }
      rows := data
      codecs := context.codecs
      version := context.version }
    return (page, shapes)
  | prepared _ => .error (.protocolViolation .unexpectedPrepared)
  | _ => .ok (.acknowledgement context info, shapes)

end CqlWire
