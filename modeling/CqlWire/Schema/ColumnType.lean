import CqlWire.Fault

/-!
# Column types

A column type as the library works with it (`ColumnType`) and as the server describes it
(`WireType`), where native types are numbers.  `WireType.resolve` turns the second into the first;
it fails exactly on a number that names no native type, and reports the first such number in
left-to-right order.
-/

namespace CqlWire

/-- The native types. -/
inductive NativeType where
  | ascii | bigint | blob | boolean | counter | decimal | double | float | int | timestamp
  | uuid | text | varint | timeuuid | inet | date | time | smallint | tinyint | duration
  deriving DecidableEq, Repr

namespace NativeType

def name : NativeType → String
  | ascii => "ascii"
  | bigint => "bigint"
  | blob => "blob"
  | boolean => "boolean"
  | counter => "counter"
  | decimal => "decimal"
  | double => "double"
  | float => "float"
  | int => "int"
  | timestamp => "timestamp"
  | uuid => "uuid"
  | text => "text"
  | varint => "varint"
  | timeuuid => "timeuuid"
  | inet => "inet"
  | date => "date"
  | time => "time"
  | smallint => "smallint"
  | tinyint => "tinyint"
  | duration => "duration"

/-- The number by which the protocol names a native type. -/
def id : NativeType → UInt16
  | ascii => 0x01
  | bigint => 0x02
  | blob => 0x03
  | boolean => 0x04
  | counter => 0x05
  | decimal => 0x06
  | double => 0x07
  | float => 0x08
  | int => 0x09
  | timestamp => 0x0B
  | uuid => 0x0C
  | text => 0x0D
  | varint => 0x0E
  | timeuuid => 0x0F
  | inet => 0x10
  | date => 0x11
  | time => 0x12
  | smallint => 0x13
  | tinyint => 0x14
  | duration => 0x15

/-- All native types, by increasing number. -/
def all : List NativeType :=
  [ascii, bigint, blob, boolean, counter, decimal, double, float, int, timestamp, uuid, text,
    varint, timeuuid, inet, date, time, smallint, tinyint, duration]

/-- The native type with a given number. -/
def ofId? (id : UInt16) : Option NativeType :=
  all.find? fun type => type.id = id

/-- A native type is found under its own number. -/
@[simp] theorem ofId?_id (type : NativeType) : ofId? type.id = some type := by
  cases type <;> rfl

/-- Only the type itself is found under its number. -/
theorem eq_id_of_ofId? {id : UInt16} {type : NativeType} (h : ofId? id = some type) :
    id = type.id := by
  have found : type.id = id := by simpa using List.find?_some h
  exact found.symm

end NativeType

/-- The type of a column. -/
inductive ColumnType where
  | native (type : NativeType)
  /-- A type known to the server by the full name of a class. -/
  | custom (className : String)
  | list (element : ColumnType)
  | set (element : ColumnType)
  | map (key value : ColumnType)
  /-- A user-defined type with its fields in order. -/
  | udt (keyspace name : String) (fields : List (String × ColumnType))
  | tuple (elements : List ColumnType)
  deriving Repr, Inhabited

namespace ColumnType

/-- The written form of a type in the query language; a user-defined type is written by name. -/
def render : ColumnType → String
  | native type => type.name
  | custom className => s!"'{className}'"
  | list element => "list<" ++ render element ++ ">"
  | set element => "set<" ++ render element ++ ">"
  | map key value => "map<" ++ render key ++ ", " ++ render value ++ ">"
  | udt keyspace name _ => s!"{keyspace}.{name}"
  | tuple elements => "tuple<" ++ ", ".intercalate (renderAll elements) ++ ">"
where
  renderAll : List ColumnType → List String
    | [] => []
    | element :: elements => render element :: renderAll elements

instance : ToString ColumnType := ⟨render⟩

end ColumnType

/-- The type of a column as the server describes it. -/
inductive WireType where
  /-- A native type, by its number. -/
  | native (id : UInt16)
  | custom (className : String)
  | list (element : WireType)
  | set (element : WireType)
  | map (key value : WireType)
  | udt (keyspace name : String) (fields : List (String × WireType))
  | tuple (elements : List WireType)
  deriving Repr, Inhabited

namespace WireType

/-- The column type that a description stands for. -/
def resolve : WireType → Except ProtocolFault ColumnType
  | native id =>
    match NativeType.ofId? id with
    | some type => .ok (.native type)
    | none => .error (.unknownType id)
  | custom className => .ok (.custom className)
  | list element => do return .list (← resolve element)
  | set element => do return .set (← resolve element)
  | map key value => do return .map (← resolve key) (← resolve value)
  | udt keyspace name fields => do return .udt keyspace name (← resolveFields fields)
  | tuple elements => do return .tuple (← resolveAll elements)
where
  resolveAll : List WireType → Except ProtocolFault (List ColumnType)
    | [] => .ok []
    | element :: elements => do return (← resolve element) :: (← resolveAll elements)
  resolveFields : List (String × WireType) → Except ProtocolFault (List (String × ColumnType))
    | [] => .ok []
    | (label, field) :: fields => do return (label, ← resolve field) :: (← resolveFields fields)

end WireType

end CqlWire
