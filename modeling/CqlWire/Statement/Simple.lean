import CqlWire.Statement.Attributes
import CqlWire.Value

/-!
# Simple statements

A query text with values, either positional or named.  Having both is refused only when a request is
made of the statement.
-/

namespace CqlWire

/-- A query text with optional values. -/
structure SimpleStatement where
  query : String
  positional : List Value := []
  /-- Named values in the order in which their names were first given. -/
  named : List (String × Value) := []
  attributes : Attributes := {}

/-- Sets the value of a name: in place if the name is there already, at the end otherwise. -/
def setNamed (name : String) (value : Value) : List (String × Value) → List (String × Value)
  | [] => [(name, value)]
  | (known, old) :: rest =>
    if known = name then (known, value) :: rest else (known, old) :: setNamed name value rest

namespace SimpleStatement

/-- The statement with these positional values and no others. -/
def withPositional (statement : SimpleStatement) (values : List Value) : SimpleStatement :=
  { statement with positional := values }

/-- The statement with one more positional value. -/
def addPositional (statement : SimpleStatement) (value : Value) : SimpleStatement :=
  { statement with positional := statement.positional ++ [value] }

/-- The statement with a named value, which replaces a value of the same name. -/
def withNamed (statement : SimpleStatement) (name : String) (value : Value) : SimpleStatement :=
  { statement with named := setNamed name value statement.named }

end SimpleStatement

end CqlWire
