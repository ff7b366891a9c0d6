/-!
# Kinds of writes

The kind of a write that timed out or failed on the server.  A kind that is not known is kept as it
was sent.
-/

namespace CqlWire

/-- The kind of a write. -/
inductive WriteType where
  | simple
  | batch
  | unloggedBatch
  | counter
  | batchLog
  | cas
  | view
  | cdc
  /-- A kind that is not known. -/
  | other (name : String)
  deriving DecidableEq, Repr

namespace WriteType

def name : WriteType → String
  | simple => "SIMPLE"
  | batch => "BATCH"
  | unloggedBatch => "UNLOGGED_BATCH"
  | counter => "COUNTER"
  | batchLog => "BATCH_LOG"
  | cas => "CAS"
  | view => "VIEW"
  | cdc => "CDC"
  | other name => name

/-- The kinds that are known. -/
def known : List WriteType :=
  [simple, batch, unloggedBatch, counter, batchLog, cas, view, cdc]

/-- The kind of write of a given name, which has to match exactly. -/
def ofName (name : String) : WriteType :=
  (known.find? fun kind => kind.name = name).getD (other name)

/-- Whether the kind is known. -/
def isKnown : WriteType → Bool
  | other _ => false
  | _ => true

/-- The name is kept, whether it is known or not. -/
@[simp] theorem name_ofName (name : String) : (ofName name).name = name := by
  unfold ofName
  cases h : known.find? fun kind => kind.name = name with
  | none => rfl
  | some kind => simpa using List.find?_some h

instance : ToString WriteType := ⟨name⟩

end WriteType

end CqlWire
