import CqlWire.Proofs.Outcome

/-!
# Reasons for a failure, in order

Checks that are made one after the other are described by a list of reasons: properties of errors,
each of which holds of the errors that one check can end with.  `IsFirst` tells the error of the
first reason that applies, and `FailsBy` says of a computation that it fails exactly so.  The rules
for `FailsBy` follow the computation step by step.
-/

namespace CqlWire

/-- Whether an error is that of the first reason that applies. -/
inductive IsFirst {ε : Type} : List (ε → Prop) → ε → Prop
  | head {reason reasons error} (h : reason error) : IsFirst (reason :: reasons) error
  | tail {reason reasons error} (hnone : ∀ error', ¬ reason error') (h : IsFirst reasons error) :
    IsFirst (reason :: reasons) error

variable {ε α β : Type} {error : ε} {reason : ε → Prop} {reasons reasons' : List (ε → Prop)}

theorem not_isFirst_nil : ¬ IsFirst [] error := nofun

theorem isFirst_cons_iff :
    IsFirst (reason :: reasons) error ↔
      reason error ∨ (∀ error', ¬ reason error') ∧ IsFirst reasons error := by
  constructor
  · rintro (h | ⟨hnone, h⟩)
    · exact .inl h
    · exact .inr ⟨hnone, h⟩
  · rintro (h | ⟨hnone, h⟩)
    · exact .head h
    · exact .tail hnone h

/-- The first reason that applies is one of the reasons. -/
theorem IsFirst.exists_mem (h : IsFirst reasons error) : ∃ reason ∈ reasons, reason error := by
  induction h with
  | head hreason => exact ⟨_, List.mem_cons_self, hreason⟩
  | tail _ _ ih =>
    obtain ⟨reason, hmem, hreason⟩ := ih
    exact ⟨reason, List.mem_cons_of_mem _ hmem, hreason⟩

/-- Some reason is the first one exactly if some reason applies. -/
theorem exists_isFirst_iff :
    (∃ error, IsFirst reasons error) ↔ ∃ reason ∈ reasons, ∃ error, reason error := by
  induction reasons with
  | nil => simp [not_isFirst_nil]
  | cons reason reasons ih =>
    rw [List.exists_mem_cons_iff, ← ih]
    by_cases h : ∃ error, reason error
    · obtain ⟨error, herror⟩ := h
      exact iff_of_true ⟨error, .head herror⟩ (.inl ⟨error, herror⟩)
    · simp only [isFirst_cons_iff, not_exists.mp h, not_false_eq_true, implies_true, true_and,
        false_or, exists_false]

/-- Reasons that come later count where no earlier one applies. -/
theorem isFirst_append_iff :
    IsFirst (reasons ++ reasons') error ↔
      IsFirst reasons error ∨
        (∀ error', ¬ IsFirst reasons error') ∧ IsFirst reasons' error := by
  induction reasons with
  | nil => simp [not_isFirst_nil]
  | cons reason reasons ih =>
    rw [List.cons_append, isFirst_cons_iff, ih]
    simp only [isFirst_cons_iff]
    by_cases h : ∃ error, reason error
    · obtain ⟨error', herror'⟩ := h
      have hsome : ¬ ∀ error', ¬ reason error' := fun hnone => hnone error' herror'
      simp only [hsome, false_and, or_false]
    · simp only [not_exists.mp h, not_false_eq_true, implies_true, true_and, false_or]

/-- Of reasons that are made from the elements of a list, the first one that applies is made from
the first element for which one does. -/
theorem isFirst_ofElements_iff {α : Type} {reasonOf : α → ε → Prop} {xs : List α} {error : ε} :
    IsFirst (xs.map reasonOf) error ↔
      ∃ before x after, xs = before ++ x :: after ∧
        (∀ earlier ∈ before, ∀ error', ¬ reasonOf earlier error') ∧ reasonOf x error := by
  induction xs with
  | nil => exact iff_of_false not_isFirst_nil (by simp)
  | cons first xs ih =>
    rw [List.map_cons, isFirst_cons_iff, ih]
    constructor
    · rintro (h | ⟨hnone, before, x, after, rfl, hbefore, hx⟩)
      · exact ⟨[], first, xs, rfl, fun _ h => absurd h List.not_mem_nil, h⟩
      · exact ⟨first :: before, x, after, rfl, List.forall_mem_cons.mpr ⟨hnone, hbefore⟩, hx⟩
    · rintro ⟨before, x, after, hsplit, hbefore, hx⟩
      rcases List.cons_eq_append_iff.mp hsplit with ⟨rfl, hhead⟩ | ⟨before, rfl, rfl⟩
      · obtain ⟨rfl, rfl⟩ := List.cons.inj hhead
        exact .inl hx
      · obtain ⟨hnone, hbefore⟩ := List.forall_mem_cons.mp hbefore
        exact .inr ⟨hnone, before, x, after, rfl, hbefore, hx⟩

/-- The reason for the errors that `f` makes of the errors of a reason. -/
def Reason.map {ε ε' : Type} (f : ε → ε') (reason : ε → Prop) (error : ε') : Prop :=
  ∃ cause, reason cause ∧ f cause = error

/-- Errors that are only renamed have the same first reason. -/
theorem isFirst_map_iff {ε' : Type} {f : ε → ε'} {error : ε'} :
    IsFirst (reasons.map (Reason.map f)) error ↔
      ∃ cause, IsFirst reasons cause ∧ f cause = error := by
  induction reasons with
  | nil => simp [not_isFirst_nil]
  | cons reason reasons ih =>
    have hnone : (∀ error', ¬ Reason.map f reason error') ↔ ∀ cause, ¬ reason cause :=
      ⟨fun h cause hcause => h (f cause) ⟨cause, hcause, rfl⟩,
        fun h _ ⟨cause, hcause, _⟩ => h cause hcause⟩
    rw [List.map_cons, isFirst_cons_iff, ih, hnone]
    simp only [isFirst_cons_iff, Reason.map, or_and_right, exists_or, and_assoc,
      exists_and_left]

/-! ### Computations -/

/-- Whether a computation fails exactly for the given reasons, with the error of the first one that
applies. -/
def FailsBy (outcome : Except ε α) (reasons : List (ε → Prop)) : Prop :=
  ∀ error, outcome = .error error ↔ IsFirst reasons error

namespace FailsBy

variable {outcome : Except ε α} {next : α → Except ε β}

theorem ok (value : α) : FailsBy (.ok value : Except ε α) [] :=
  fun _ => iff_of_false nofun not_isFirst_nil

/-- One check has one reason. -/
theorem of_eq_error_iff (h : ∀ error, outcome = .error error ↔ reason error) :
    FailsBy outcome [reason] := by
  intro error
  rw [h, isFirst_cons_iff]
  exact ⟨.inl, fun h => h.resolve_right fun h => not_isFirst_nil h.2⟩

/-- Errors that are only renamed have the same reasons. -/
theorem mapError {ε' : Type} (h : FailsBy outcome reasons) (f : ε → ε') :
    FailsBy (outcome.mapError f) (reasons.map (Reason.map f)) := by
  intro error
  simp only [mapError_eq_error_iff, isFirst_map_iff, h _]

/-- What comes next counts where nothing has failed before. -/
theorem bind (hfirst : FailsBy outcome reasons)
    (hnext : ∀ value, outcome = .ok value → FailsBy (next value) reasons') :
    FailsBy (outcome >>= next) (reasons ++ reasons') := by
  intro error
  rw [bind_eq_error_iff, hfirst, isFirst_append_iff]
  refine or_congr_right ⟨?_, ?_⟩
  · rintro ⟨value, hvalue, h⟩
    refine ⟨fun error' hfailed => ?_, (hnext value hvalue error).mp h⟩
    rw [← hfirst, hvalue] at hfailed
    exact nomatch hfailed
  · rintro ⟨hnone, h⟩
    cases houtcome : outcome with
    | error error' => exact absurd ((hfirst error').mp houtcome) (hnone error')
    | ok value => exact ⟨value, rfl, (hnext value houtcome error).mpr h⟩

/-- What is made of a success can not fail any more. -/
theorem map (h : FailsBy outcome reasons) (f : α → β) :
    FailsBy (do return f (← outcome)) reasons := by
  rw [← reasons.append_nil]
  exact h.bind fun _ _ => .ok _

/-- Over a list, the reasons of the elements count in the order of the elements. -/
theorem mapM {f : α → Except ε β} {reasonsOf : α → List (ε → Prop)} {xs : List α}
    (h : ∀ x ∈ xs, FailsBy (f x) (reasonsOf x)) :
    FailsBy (xs.mapM f) (xs.flatMap reasonsOf) := by
  induction xs with
  | nil => exact .ok []
  | cons x xs ih =>
    obtain ⟨hx, hxs⟩ := List.forall_mem_cons.mp h
    rw [List.mapM_cons, List.flatMap_cons]
    exact hx.bind fun y _ => (ih hxs).map (y :: ·)

/-- A computation succeeds exactly if no reason applies. -/
theorem exists_eq_ok_iff (h : FailsBy outcome reasons) :
    (∃ value, outcome = .ok value) ↔ ∀ reason ∈ reasons, ∀ error, ¬ reason error := by
  cases houtcome : outcome with
  | ok value =>
    refine iff_of_true ⟨value, rfl⟩ fun reason hmem error herror => ?_
    obtain ⟨first, hfirst⟩ := exists_isFirst_iff.mpr ⟨reason, hmem, error, herror⟩
    exact nomatch houtcome.symm.trans ((h first).mpr hfirst)
  | error error =>
    obtain ⟨reason, hmem, herror⟩ := ((h error).mp houtcome).exists_mem
    exact iff_of_false nofun fun hnone => hnone reason hmem error herror

/-- A check that is made under a condition has one reason, in which the condition is part. -/
theorem check_bind {condition : Bool} {check : Except ε Unit} {next : Unit → Except ε β}
    (hcheck : ∀ error, condition = true ∧ check = .error error ↔ reason error)
    (hnext : FailsBy (next ()) reasons) :
    FailsBy (if condition then check >>= next else next ()) (reason :: reasons) := by
  cases condition with
  | false =>
    have hnone : ∀ error, ¬ reason error := fun error h => nomatch ((hcheck error).mpr h).1
    intro error
    rw [if_neg Bool.false_ne_true, hnext, isFirst_cons_iff, and_iff_right hnone, or_iff_right
      (hnone error)]
  | true =>
    rw [if_pos rfl]
    have hreason : ∀ error, check = .error error ↔ reason error := by
      simpa only [true_and] using hcheck
    exact (of_eq_error_iff hreason).bind fun _ _ => hnext

end FailsBy

end CqlWire
