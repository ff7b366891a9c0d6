import CqlWire.Protocol.Version

/-!
# What can be wrong with a request or an answer

The causes of the three failures that the library itself detects: an argument that a request can
not express, a statement that is not ready to be sent, and an answer that the protocol does not
allow at this place.  Each cause carries what its wording names.
-/

namespace CqlWire

/-- Why an argument is refused. -/
inductive ArgumentFault where
  /-- A statement has both positional and named values. -/
  | mixedValues
  /-- A keyspace is set, but the protocol version can not carry it. -/
  | requestKeyspace (version : ProtocolVersion)
  /-- A child of a batch has named values. -/
  | namedValuesInBatch (query : String)
  /-- There is no bind marker at this index. -/
  | noMarkerAt (index markers : Nat)
  /-- There is no bind marker of this name. -/
  | noMarkerNamed (name : String)
  /-- A row has no cell at this index. -/
  | noCellAt (index cells : Nat)
  /-- A row has no column of this name. -/
  | noColumnNamed (name : String)
  deriving DecidableEq, Repr

def ArgumentFault.message : ArgumentFault → String
  | mixedValues => "Can't have both positional and named values in a statement."
  | requestKeyspace version => s!"Can't use per-request keyspace with protocol {version}"
  | namedValuesInBatch query =>
    "Batch statements cannot contain simple statements with named values " ++
      s!"(offending statement: {query})"
  | noMarkerAt index markers => s!"index {index} out of bounds for {markers} bind markers"
  | noMarkerNamed name => s!"{name} is not a variable in this bound statement"
  | noCellAt index cells => s!"index {index} out of bounds for {cells} columns"
  | noColumnNamed name => s!"{name} is not a column in this row"

/-- Why a statement can not be sent yet. -/
inductive StateFault where
  /-- The bind marker at this index has no value, and the protocol version can not say so. -/
  | unsetValue (index : Nat)
  deriving DecidableEq, Repr

def StateFault.message : StateFault → String
  | unsetValue index =>
    s!"Unset value at index {index}. " ++
      "If you want this value to be null, please set it to null explicitly."

/-- What the server sent that does not belong there. -/
inductive ProtocolFault where
  /-- A column type with a number that names no type. -/
  | unknownType (id : UInt16)
  /-- Rows without column metadata, although the request asked for it. -/
  | rowsWithoutMetadata
  /-- A new result metadata id for a statement that was not prepared. -/
  | unexpectedMetadataId
  /-- A PREPARED answer to something else than PREPARE. -/
  | unexpectedPrepared
  /-- A cell beyond the last column definition. -/
  | noDefinitionAt (index : Nat)
  deriving DecidableEq, Repr

def ProtocolFault.message : ProtocolFault → String
  | unknownType id =>
    "unknown type id 0x" ++ Text.hexadecimal 4 id.toNat ++ " in column metadata"
  | rowsWithoutMetadata => "rows without metadata for a statement that did not skip it"
  | unexpectedMetadataId => "new result metadata id for a statement that was not prepared"
  | unexpectedPrepared => "Unexpected PREPARED response to a CQL query"
  | noDefinitionAt index => s!"no column definition for index {index}"

end CqlWire
