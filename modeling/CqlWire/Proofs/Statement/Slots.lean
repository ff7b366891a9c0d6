import CqlWire.Proofs.Statement.ByName
import Mathlib.Data.List.Induction

/-!
# Slots along a run

A user of a bound statement sets slots, one at a time or all of a name, and changes attributes; a
statement on which an operation fails stays as it is.  Along such a run there is a slot for each
marker, and it holds what the last successful operation on it gave, or is unset if there was none.
Slots and attributes do not touch each other.

`BoundStatement.slots_of_run` says so for a run from a fresh statement, and says which operations at
an index fail.
-/

namespace CqlWire

/-! ### Operations -/

/-- An operation on the slots of a bound statement. -/
inductive SlotOperation where
  | set (index : Nat) (value : Value)
  | setByName (name : String) (value : Value)
  | setNull (index : Nat)
  | unset (index : Nat)
  | setRaw (index : Nat) (slot : EncodedValue)

/-- A change of one attribute. -/
inductive AttributeChange where
  | keyspace (keyspace : String)
  | timestamp (timestamp : Timestamp)
  | pagingState (pagingState : Bytes)
  | customPayload (key : String) (content : Bytes)
  | idempotence (idempotent : Bool)
  | profile (profile : String)

/-- What a user does with a bound statement in one step. -/
inductive BoundOperation where
  | slots (operation : SlotOperation)
  | attributes (change : AttributeChange)

/-- The attributes after a change. -/
def Attributes.change (attributes : Attributes) : AttributeChange → Attributes
  | .keyspace keyspace => attributes.withKeyspace keyspace
  | .timestamp timestamp => attributes.withTimestamp timestamp
  | .pagingState pagingState => attributes.withPagingState pagingState
  | .customPayload key content => attributes.withCustomPayload key content
  | .idempotence idempotent => attributes.withIdempotence idempotent
  | .profile profile => attributes.withProfile profile

namespace BoundStatement

/-- The outcome of an operation on slots. -/
def apply (bound : BoundStatement) : SlotOperation → Except ClientError BoundStatement
  | .set index value => bound.set index value
  | .setByName name value => bound.setByName name value
  | .setNull index => bound.setNull index
  | .unset index => bound.unset index
  | .setRaw index slot => bound.setRaw index slot

/-- The statement after an attribute was changed. -/
def change (bound : BoundStatement) (change : AttributeChange) : BoundStatement :=
  { bound with attributes := bound.attributes.change change }

/-- The statement after a step; it stays as it is if the step fails. -/
def step (bound : BoundStatement) : BoundOperation → BoundStatement
  | .slots operation =>
    match bound.apply operation with
    | .ok later => later
    | .error _ => bound
  | .attributes change => bound.change change

/-- The statement after the steps of a run. -/
def run (bound : BoundStatement) (operations : List BoundOperation) : BoundStatement :=
  operations.foldl step bound

/-- The operations on slots that succeed in the course of a run, in order. -/
def successes (bound : BoundStatement) : List BoundOperation → List SlotOperation
  | [] => []
  | .slots operation :: rest =>
    match bound.apply operation with
    | .ok later => operation :: later.successes rest
    | .error _ => bound.successes rest
  | .attributes change :: rest => (bound.change change).successes rest

end BoundStatement

/-! ### What a slot should hold -/

namespace SlotOperation

/-- The index at which an operation works, if it is given one. -/
def index? : SlotOperation → Option Nat
  | set index _ => some index
  | setByName _ _ => none
  | setNull index => some index
  | unset index => some index
  | setRaw index _ => some index

/-- Whether an operation is meant for the slot of a marker. -/
def Targets (prepared : PreparedStatement) (index : Nat) : SlotOperation → Prop
  | set place _ => place = index
  | setByName name _ => prepared.markers.IsNamed name index
  | setNull place => place = index
  | unset place => place = index
  | setRaw place _ => place = index

/-- What an operation gives to the slot of a marker. -/
inductive Gives (prepared : PreparedStatement) (index : Nat) :
    SlotOperation → EncodedValue → Prop
  | set {value : Value} {slot : EncodedValue} (hslot : prepared.EncodesAt value index slot) :
    Gives prepared index (.set index value) slot
  | setByName {name : String} {value : Value} {slot : EncodedValue}
      (hnamed : prepared.markers.IsNamed name index) (hslot : prepared.EncodesAt value index slot) :
    Gives prepared index (.setByName name value) slot
  | setNull : Gives prepared index (.setNull index) .null
  | unset : Gives prepared index (.unset index) .unset
  | setRaw {slot : EncodedValue} : Gives prepared index (.setRaw index slot) slot

end SlotOperation

/-- Whether a slot holds what the last of some operations that is meant for it gave to it, or is
unset if none of them is. -/
inductive IsLastGiven (prepared : PreparedStatement) (index : Nat) :
    List SlotOperation → EncodedValue → Prop
  | never {operations : List SlotOperation}
      (hnone : ∀ operation ∈ operations, ¬ operation.Targets prepared index) :
    IsLastGiven prepared index operations .unset
  | last {before after : List SlotOperation} {operation : SlotOperation} {slot : EncodedValue}
      (hgives : operation.Gives prepared index slot)
      (hafter : ∀ later ∈ after, ¬ later.Targets prepared index) :
    IsLastGiven prepared index (before ++ operation :: after) slot

theorem IsLastGiven.snoc {prepared : PreparedStatement} {index : Nat}
    {operations : List SlotOperation} {slot : EncodedValue} {operation : SlotOperation}
    (h : IsLastGiven prepared index operations slot)
    (hother : ¬ operation.Targets prepared index) :
    IsLastGiven prepared index (operations ++ [operation]) slot := by
  cases h with
  | never hnone =>
    exact .never (List.forall_mem_append.mpr ⟨hnone, List.forall_mem_singleton.mpr hother⟩)
  | last hgives hafter =>
    rw [List.append_assoc, List.cons_append]
    exact .last hgives
      (List.forall_mem_append.mpr ⟨hafter, List.forall_mem_singleton.mpr hother⟩)

namespace BoundStatement

variable {bound later : BoundStatement} {operation : SlotOperation} {index : Nat}
  {slot : EncodedValue} {error : ClientError}

/-! ### One step -/

theorem isSet_iff :
    bound.isSet index ↔ ∃ slot, bound.slots[index]? = some slot ∧ slot ≠ .unset := by
  unfold isSet
  cases bound.slots[index]? with
  | none => simp
  | some slot => simp [← EncodedValue.isUnset_iff]

theorem setRaw_eq_ok_iff :
    bound.setRaw index slot = .ok later ↔
      index < bound.slots.length ∧ later = bound.withSlot index slot := by
  unfold setRaw
  split_ifs with h
  · rw [Except.ok.injEq, and_iff_right h, eq_comm]
    exact Iff.rfl
  · refine iff_of_false ?_ fun hboth => h hboth.1
    rintro ⟨⟩

theorem setRaw_eq_error_iff :
    bound.setRaw index slot = .error error ↔
      bound.prepared.markers.length ≤ index ∧
        error = .invalidArgument (.noMarkerAt index bound.prepared.markers.length) := by
  unfold setRaw
  rw [bound.length_slots]
  split_ifs with h
  · refine iff_of_false ?_ fun hboth => Nat.not_lt.mpr hboth.1 h
    rintro ⟨⟩
  · rw [Except.error.injEq, and_iff_right (Nat.not_lt.mp h), eq_comm]

/-- Whether a statement is another one after an operation on its slots. -/
abbrev IsAfter (bound : BoundStatement) (operation : SlotOperation) (later : BoundStatement) :
    Prop :=
  bound.IsWrittenAt (operation.Targets bound.prepared ·) (operation.Gives bound.prepared ·) later

/-- An operation that succeeds gives a value to the slots that it is meant for, and to no others. -/
theorem isAfter_of_apply (h : bound.apply operation = .ok later) :
    bound.IsAfter operation later := by
  cases operation with
  | set index value =>
    obtain ⟨marker, slot, hmarker, hslot, rfl⟩ := set_eq_ok_iff.mp h
    exact isWrittenAt_withSlot (lt_length_slots hmarker) (fun _ => Iff.rfl)
      (.set ⟨marker, hmarker, hslot⟩)
  | setByName name value =>
    obtain ⟨-, hset⟩ := setByName_eq_ok_iff.mp h
    refine ⟨hset.prepared_eq, hset.attributes_eq, fun index hnamed => ?_, hset.kept_at⟩
    obtain ⟨slot, hslot, hlater⟩ := hset.written_at index hnamed
    exact ⟨slot, .setByName hnamed hslot, hlater⟩
  | setNull index =>
    obtain ⟨hindex, rfl⟩ := setRaw_eq_ok_iff.mp h
    exact isWrittenAt_withSlot hindex (fun _ => Iff.rfl) .setNull
  | unset index =>
    obtain ⟨hindex, rfl⟩ := setRaw_eq_ok_iff.mp h
    exact isWrittenAt_withSlot hindex (fun _ => Iff.rfl) .unset
  | setRaw index slot =>
    obtain ⟨hindex, rfl⟩ := setRaw_eq_ok_iff.mp h
    exact isWrittenAt_withSlot hindex (fun _ => Iff.rfl) .setRaw

/-- An operation at an index is refused as an argument exactly if there is no marker there, whatever
value it is given. -/
theorem apply_eq_invalidArgument_iff {fault : ArgumentFault}
    (hindex : operation.index? = some index) :
    bound.apply operation = .error (.invalidArgument fault) ↔
      bound.prepared.markers.length ≤ index ∧
        fault = .noMarkerAt index bound.prepared.markers.length := by
  cases operation with
  | set place value =>
    obtain rfl := Option.some.inj hindex
    rw [apply, set_eq_error_iff]
    simp
  | setByName name value => exact nomatch hindex
  | setNull place =>
    obtain rfl := Option.some.inj hindex
    rw [apply, setNull, setRaw_eq_error_iff, ClientError.invalidArgument.injEq]
  | unset place =>
    obtain rfl := Option.some.inj hindex
    rw [apply, unset, setRaw_eq_error_iff, ClientError.invalidArgument.injEq]
  | setRaw place slot =>
    obtain rfl := Option.some.inj hindex
    rw [apply, setRaw_eq_error_iff, ClientError.invalidArgument.injEq]

/-! ### Runs -/

theorem run_snoc (bound : BoundStatement) (operations : List BoundOperation)
    (last : BoundOperation) :
    bound.run (operations ++ [last]) = (bound.run operations).step last :=
  List.foldl_concat ..

theorem successes_snoc (bound : BoundStatement) (operations : List BoundOperation)
    (last : BoundOperation) :
    bound.successes (operations ++ [last])
      = bound.successes operations ++ (bound.run operations).successes [last] := by
  induction operations generalizing bound with
  | nil => rfl
  | cons first rest ih =>
    cases first with
    | attributes change => exact ih (bound.change change)
    | slots operation =>
      rw [List.cons_append, successes, successes, run, List.foldl_cons, step]
      cases h : bound.apply operation with
      | ok later => exact congrArg (operation :: ·) (ih later)
      | error error => exact ih bound

/-- What holds of a statement after operations on the slots of a fresh one that all succeeded. -/
structure HoldsLast (prepared : PreparedStatement) (operations : List SlotOperation)
    (bound : BoundStatement) : Prop where
  prepared_eq : bound.prepared = prepared
  exists_slot : ∀ index < prepared.markers.length, ∃ slot, bound.slots[index]? = some slot ∧
    IsLastGiven prepared index operations slot

namespace HoldsLast

variable {prepared : PreparedStatement} {operations : List SlotOperation}

theorem fresh (prepared : PreparedStatement) : HoldsLast prepared [] (fresh prepared) where
  prepared_eq := rfl
  exists_slot index hindex := by
    refine ⟨.unset, ?_, .never fun _ h => absurd h List.not_mem_nil⟩
    show (prepared.markers.map fun _ => EncodedValue.unset)[index]? = _
    rw [List.getElem?_map, List.getElem?_eq_getElem hindex]
    rfl

theorem change (h : HoldsLast prepared operations bound) (change : AttributeChange) :
    HoldsLast prepared operations (bound.change change) :=
  ⟨h.prepared_eq, h.exists_slot⟩

theorem snoc (h : HoldsLast prepared operations bound) (hafter : bound.IsAfter operation later) :
    HoldsLast prepared (operations ++ [operation]) later where
  prepared_eq := hafter.prepared_eq.trans h.prepared_eq
  exists_slot index hindex := by
    have hprepared := h.prepared_eq
    by_cases htargets : operation.Targets prepared index
    · obtain ⟨slot, hgives, hslot⟩ := hafter.written_at index (hprepared ▸ htargets)
      refine ⟨slot, hslot, .last (hprepared ▸ hgives) fun _ h => absurd h List.not_mem_nil⟩
    · obtain ⟨slot, hslot, hlast⟩ := h.exists_slot index hindex
      exact ⟨slot, (hafter.kept_at index (hprepared ▸ htargets)).trans hslot,
        hlast.snoc htargets⟩

end HoldsLast

theorem holdsLast_run (prepared : PreparedStatement) (operations : List BoundOperation) :
    HoldsLast prepared ((fresh prepared).successes operations)
      ((fresh prepared).run operations) := by
  induction operations using List.reverseRecOn with
  | nil => exact .fresh prepared
  | append_singleton operations last ih =>
    rw [run_snoc, successes_snoc]
    cases last with
    | attributes change =>
      rw [successes, successes, List.append_nil]
      exact ih.change change
    | slots operation =>
      rw [successes, step]
      cases h : ((fresh prepared).run operations).apply operation with
      | ok later => exact ih.snoc (isAfter_of_apply h)
      | error error =>
        rw [successes, List.append_nil]
        exact ih

/-- **A slot holds what the last successful operation on it gave.**  After any run from a fresh
statement there are as many slots as markers, so that each index of a slot, and each index of a
name, is that of a marker.  A slot is unset if no operation on it succeeded or if the last one gave
that; otherwise it counts as set.  Operations on slots leave the attributes as they are, and changes
of attributes the slots.  An operation at an index is refused as an argument exactly if there is no
marker at the index, also if its value could not be encoded. -/
theorem slots_of_run (prepared : PreparedStatement) (operations : List BoundOperation) :
    let bound := (fresh prepared).run operations
    bound.prepared = prepared ∧ bound.slots.length = prepared.markers.length ∧
    (∀ name, ∀ index ∈ prepared.markers.indicesOf name, index < bound.slots.length) ∧
    (∀ index < prepared.markers.length, ∃ slot, bound.slots[index]? = some slot ∧
      IsLastGiven prepared index ((fresh prepared).successes operations) slot ∧
      (bound.isSet index ↔ slot ≠ .unset)) ∧
    (∀ index, prepared.markers.length ≤ index → bound.isSet index = false) ∧
    (∀ operation, (bound.step (.slots operation)).attributes = bound.attributes) ∧
    (∀ change, (bound.step (.attributes change)).slots = bound.slots) ∧
    ∀ operation index, operation.index? = some index → ∀ fault,
      bound.apply operation = .error (.invalidArgument fault) ↔
        prepared.markers.length ≤ index ∧ fault = .noMarkerAt index prepared.markers.length := by
  intro bound
  have hholds : HoldsLast prepared ((fresh prepared).successes operations) bound :=
    holdsLast_run prepared operations
  have hmarkers : bound.prepared.markers = prepared.markers := congrArg _ hholds.prepared_eq
  have hlength : bound.slots.length = prepared.markers.length := by
    rw [bound.length_slots, hmarkers]
  refine ⟨hholds.prepared_eq, hlength, fun name index hindex => ?_, fun index hindex => ?_,
    fun index hindex => ?_, fun operation => ?_, fun change => rfl, fun operation index hindex
      fault => ?_⟩
  · obtain ⟨marker, hmarker, -⟩ := Columns.mem_indicesOf_iff.mp hindex
    rw [hlength]
    exact (List.getElem?_eq_some_iff.mp hmarker).1
  · obtain ⟨slot, hslot, hlast⟩ := hholds.exists_slot index hindex
    refine ⟨slot, hslot, hlast, ?_⟩
    rw [isSet_iff, hslot]
    simp
  · have hnone : bound.slots[index]? = none := List.getElem?_eq_none (hlength ▸ hindex)
    rw [isSet, hnone]
  · rw [step]
    cases h : bound.apply operation with
    | ok later => exact (isAfter_of_apply h).attributes_eq
    | error error => rfl
  · rw [apply_eq_invalidArgument_iff hindex, hmarkers]

/-- Eight steps, of which the second and the sixth fail: one of two markers of a name refuses the
number, and there is no fourth marker. -/
def eightSteps : List BoundOperation := [
  .slots (.set 1 (.blob [7])), .slots (.setByName "a" (.int 7)), .attributes (.keyspace "k"),
  .slots (.setRaw 0 (.bytes [1])), .slots (.set 2 (.bigint 2)), .slots (.setNull 3),
  .slots (.setByName "a" .null), .slots (.unset 2)]

/-- Null is a value, and the marker that is unset in the end has none.  A value that no column
admits is not looked at if there is no marker for it. -/
theorem slots_of_run_of_eightSteps :
    let bound := (fresh sharedName).run eightSteps
    bound.slots = [.null, .bytes [7], .unset] ∧
      IsLastGiven sharedName 0 ((fresh sharedName).successes eightSteps) .null ∧
      bound.isSet 0 ∧ bound.isSet 2 = false ∧ bound.isSet 3 = false ∧
      bound.apply (.set 3 (.double ⟨0⟩)) = .error (.invalidArgument (.noMarkerAt 3 3)) := by
  intro bound
  have hslots : bound.slots = [.null, .bytes [7], .unset] := rfl
  obtain ⟨-, -, -, hlast, hbeyond, -, -, hrefused⟩ := slots_of_run sharedName eightSteps
  obtain ⟨first, hfirst, hgiven, hset⟩ := hlast 0 (by decide)
  obtain ⟨third, hthird, -, hunset⟩ := hlast 2 (by decide)
  obtain rfl : first = .null := (Option.some.inj hfirst).symm
  obtain rfl : third = .unset := (Option.some.inj hthird).symm
  refine ⟨hslots, hgiven, hset.mpr (by decide), ?_, hbeyond 3 (by decide),
    (hrefused _ 3 rfl _).mpr ⟨by decide, rfl⟩⟩
  rw [Bool.eq_false_iff]
  exact fun h => hunset.mp h rfl

end BoundStatement

end CqlWire
