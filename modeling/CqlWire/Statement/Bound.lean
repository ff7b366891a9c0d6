import CqlWire.Codec.Encoding
import CqlWire.Statement.Prepared

/-!
# Bound statements

Values for the bind markers of a prepared statement.  Every marker starts out unset, which is not
the same as null.  A value is encoded when it is set, for the declared type of its marker; a
statement on which an operation fails is not changed.
-/

namespace CqlWire

/-- Values for the bind markers of a prepared statement. -/
structure BoundStatement where
  prepared : PreparedStatement
  /-- One encoded value for each bind marker. -/
  slots : List EncodedValue
  attributes : Attributes
  /-- There is a value for each marker. -/
  length_slots : slots.length = prepared.markers.length

namespace BoundStatement

/-- A statement in which no marker is set. -/
def fresh (prepared : PreparedStatement) : BoundStatement :=
  { prepared
    slots := prepared.markers.map fun _ => .unset
    attributes := {
      keyspace := prepared.boundDefaults.keyspace
      customPayload := prepared.boundDefaults.customPayload
      idempotent := prepared.boundDefaults.idempotent
      profile := prepared.boundDefaults.profile }
    length_slots := List.length_map _ }

/-- Whether the marker at an index has a value; null is a value. -/
def isSet (bound : BoundStatement) (index : Nat) : Bool :=
  match bound.slots[index]? with
  | some slot => !slot.isUnset
  | none => false

/-- The least index whose marker has no value. -/
def firstUnset? (bound : BoundStatement) : Option Nat :=
  bound.slots.findIdx? EncodedValue.isUnset

/-- Sets an encoded value. -/
def setRaw (bound : BoundStatement) (index : Nat) (slot : EncodedValue) :
    Except ClientError BoundStatement :=
  if index < bound.slots.length then
    .ok { bound with
      slots := bound.slots.set index slot
      length_slots := List.length_set.trans bound.length_slots }
  else
    .error (.invalidArgument (.noMarkerAt index bound.slots.length))

/-- Sets a value, encoded for the declared type of the marker. -/
def set (bound : BoundStatement) (index : Nat) (value : Value) :
    Except ClientError BoundStatement :=
  match bound.prepared.markers[index]? with
  | none => .error (.invalidArgument (.noMarkerAt index bound.slots.length))
  | some marker => do
    bound.setRaw index (← value.encodeFor bound.prepared.codecs bound.prepared.version marker.type)

/-- Sets a marker to null. -/
def setNull (bound : BoundStatement) (index : Nat) : Except ClientError BoundStatement :=
  bound.setRaw index .null

/-- Takes the value of a marker away. -/
def unset (bound : BoundStatement) (index : Nat) : Except ClientError BoundStatement :=
  bound.setRaw index .unset

/-- Sets the markers at several indices, one after the other. -/
def setAll (bound : BoundStatement) (indices : List Nat) (value : Value) :
    Except ClientError BoundStatement :=
  indices.foldlM (fun bound index => bound.set index value) bound

/-- Sets every marker of a given name. -/
def setByName (bound : BoundStatement) (name : String) (value : Value) :
    Except ClientError BoundStatement :=
  match bound.prepared.markers.indicesOf name with
  | [] => .error (.invalidArgument (.noMarkerNamed name))
  | indices => bound.setAll indices value

/-- Binds values to the first markers of a prepared statement, in order. -/
def bind (prepared : PreparedStatement) (values : List Value) :
    Except ClientError BoundStatement :=
  values.zipIdx.foldlM (fun bound (value, index) => bound.set index value) (fresh prepared)

/-- Fails on the first marker without a value. -/
def ensureAllSet (bound : BoundStatement) : Except ClientError Unit :=
  match bound.firstUnset? with
  | some index => .error (.illegalState (.unsetValue index))
  | none => .ok ()

end BoundStatement

end CqlWire
