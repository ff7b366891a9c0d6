import CqlWire.Request.Message
import Mathlib.Logic.Basic

/-!
# The flags of a request

Each flag has a bit of its own, so that exactly those flags are set whose conditions hold
(`has_ofConditions`).  For the flags of query and execute requests and of batches this tells which
optional parts are announced.
-/

namespace CqlWire

namespace RequestFlags

theorem has_or (flags flags' : RequestFlags) (flag : RequestFlag) :
    has (flags ||| flags') flag = (has flags flag || has flags' flag) := by
  have hdistrib :
      (flags ||| flags') &&& flag.mask = (flags &&& flag.mask) ||| (flags' &&& flag.mask) := by
    apply UInt8.toBitVec_inj.mp
    ext i hi
    simp [Bool.and_or_distrib_right]
  rw [Bool.eq_iff_iff, has, hdistrib]
  by_cases h : flags &&& flag.mask = 0 <;> simp [has, h]

/-- No two flags share a bit. -/
theorem has_mask (flag flag' : RequestFlag) : has flag.mask flag' = decide (flag = flag') := by
  cases flag <;> cases flag' <;> decide

/-- A flag is set if it was set before or its condition is among those that follow. -/
theorem has_foldl (conditions : List (RequestFlag × Bool)) (flags : RequestFlags)
    (flag : RequestFlag) :
    (conditions.foldl (fun flags (flag, present) => if present then flags ||| flag.mask else flags)
      flags).has flag
      = (flags.has flag || conditions.any fun condition => condition.1 = flag && condition.2) := by
  induction conditions generalizing flags with
  | nil => simp
  | cons condition conditions ih =>
    obtain ⟨head, present⟩ := condition
    rw [List.foldl_cons, ih, List.any_cons]
    cases present
    · simp
    · simp [has_or, has_mask, Bool.or_assoc]

/-- **Exactly the flags are set whose conditions hold.** -/
theorem has_ofConditions (conditions : List (RequestFlag × Bool)) (flag : RequestFlag) :
    (ofConditions conditions).has flag
      = conditions.any fun condition => condition.1 = flag && condition.2 := by
  have hzero : has 0 flag = false := by simp [has]
  rw [ofConditions, has_foldl, hzero, Bool.false_or]

end RequestFlags

/-- Which optional parts the options have. -/
def QueryParameters.announces (options : QueryParameters) : RequestFlag → Bool
  | .values => !options.values.isEmpty
  | .skipMetadata => options.skipMetadata
  | .pageSize => options.isPaged
  | .pagingState => options.pagingState.isSome
  | .serialConsistency => writesSerialConsistency options.serialConsistency
  | .timestamp => writesTimestamp options.timestamp
  | .valueNames => !options.values.isEmpty && options.values.isNamed
  | .keyspace => options.keyspace.isSome

/-- The flags of options announce exactly the parts that are there. -/
theorem QueryParameters.has_flags (options : QueryParameters) (flag : RequestFlag) :
    options.flags.has flag = options.announces flag := by
  rw [flags, RequestFlags.has_ofConditions]
  cases flag <;> simp [announces]

/-- Options with the same flags have the same optional parts. -/
theorem QueryParameters.announces_eq_of_flags_eq {left right : QueryParameters}
    (h : left.flags = right.flags) (flag : RequestFlag) :
    left.announces flag = right.announces flag := by
  rw [← has_flags, ← has_flags, h]

/-- Which optional parts a batch has. -/
def BatchRequest.announces (batch : BatchRequest) : RequestFlag → Bool
  | .serialConsistency => writesSerialConsistency batch.serialConsistency
  | .timestamp => writesTimestamp batch.timestamp
  | .keyspace => batch.keyspace.isSome
  | _ => false

/-- The flags of a batch announce exactly the parts that are there. -/
theorem BatchRequest.has_flags (batch : BatchRequest) (flag : RequestFlag) :
    batch.flags.has flag = batch.announces flag := by
  rw [flags, RequestFlags.has_ofConditions]
  cases flag <;> simp [announces]

/-- Batches with the same flags have the same optional parts. -/
theorem BatchRequest.announces_eq_of_flags_eq {left right : BatchRequest}
    (h : left.flags = right.flags) (flag : RequestFlag) :
    left.announces flag = right.announces flag := by
  rw [← has_flags, ← has_flags, h]

end CqlWire
