import CqlWire.Statement.Bound

/-!
# Statements

A statement is simple, bound, or a batch of simple and bound statements.  Statements are plain
values; `Session.makeRequest` makes a request of one.
-/

namespace CqlWire

/-- The kinds of batches. -/
inductive BatchKind where
  | logged
  | unlogged
  | counter
  deriving DecidableEq, Repr

def BatchKind.code : BatchKind → UInt8
  | logged => 0
  | unlogged => 1
  | counter => 2

/-- A statement that can be part of a batch. -/
inductive BatchChild where
  | simple (statement : SimpleStatement)
  | bound (statement : BoundStatement)

/-- Several statements that are sent as one request. -/
structure BatchStatement where
  kind : BatchKind
  /-- The children in the order in which they were added. -/
  children : List BatchChild := []
  attributes : Attributes := {}

namespace BatchStatement

/-- The batch with one more child at the end. -/
def add (batch : BatchStatement) (child : BatchChild) : BatchStatement :=
  { batch with children := batch.children ++ [child] }

/-- Fails on the first marker without a value in the first bound child that has one. -/
def ensureAllSet (batch : BatchStatement) : Except ClientError Unit :=
  batch.children.forM fun
    | .bound bound => bound.ensureAllSet
    | .simple _ => .ok ()

end BatchStatement

/-- A statement. -/
inductive Statement where
  | simple (statement : SimpleStatement)
  | bound (statement : BoundStatement)
  | batch (statement : BatchStatement)

namespace Statement

def attributes : Statement → Attributes
  | simple statement => statement.attributes
  | bound statement => statement.attributes
  | batch statement => statement.attributes

/-- The statement with other attributes. -/
def withAttributes (statement : Statement) (attributes : Attributes) : Statement :=
  match statement with
  | simple statement => simple { statement with attributes }
  | bound statement => bound { statement with attributes }
  | batch statement => batch { statement with attributes }

end Statement

end CqlWire
