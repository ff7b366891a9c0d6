import CqlWire.Bytes
import CqlWire.Schema.ColumnType

/-!
# Columns

The columns of a result, or of the bind markers of a prepared statement, and the metadata block in
which the server describes them.
-/

namespace CqlWire

/-- One column. -/
structure Column where
  keyspace : String
  table : String
  name : String
  type : ColumnType
  deriving Repr, Inhabited

/-- Columns in the order of the values of a row. -/
abbrev Columns := List Column

/-- The position of the first column with a given name. -/
def Columns.indexOf? (columns : Columns) (name : String) : Option Nat :=
  columns.findIdx? fun column => column.name = name

/-- The positions of all columns with a given name, in increasing order. -/
def Columns.indicesOf (columns : Columns) (name : String) : List Nat :=
  (columns.zipIdx.filter fun (column, _) => column.name = name).map (·.2)

/-- One column as the server describes it. -/
structure ColumnDescription where
  keyspace : String
  table : String
  name : String
  /-- The position that the server declares. -/
  index : Nat
  type : WireType
  deriving Repr, Inhabited

/-- The column that a description stands for. -/
def ColumnDescription.resolve (spec : ColumnDescription) : Except ProtocolFault Column := do
  return ⟨spec.keyspace, spec.table, spec.name, ← spec.type.resolve⟩

/-- The metadata block of a rows answer, or of either half of a PREPARED answer.  It describes no
columns when the request asked the server to skip metadata; the column count is still sent. -/
structure MetadataBlock where
  descriptions : List ColumnDescription := []
  columnCount : Nat := 0
  pagingState : Option Bytes := none
  /-- The bind markers that make up the partition key. -/
  partitionKey : List UInt16 := []
  /-- Present when the shape of the result changed since the statement was prepared. -/
  newResultMetadataId : Option Bytes := none
  deriving Repr, Inhabited

/-- The columns described by a metadata block.  Neither the declared column count nor the declared
positions matter. -/
def MetadataBlock.columns (metadata : MetadataBlock) : Except ProtocolFault Columns :=
  metadata.descriptions.mapM ColumnDescription.resolve

end CqlWire
