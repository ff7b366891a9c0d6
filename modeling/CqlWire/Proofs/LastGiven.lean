import CqlWire.Request.Field
import Mathlib.Data.List.Basic
import Mathlib.Data.List.Induction
import Std.Data.ExtTreeMap.Lemmas

/-!
# What was given last

Whatever is set again and again, in steps of which some give a value and others do not, is what the
last step gave that gives one (`get_foldl`).  In a list of entries, the last one of a key gives the
value of the key (`lastOf?_eq_some_iff`), and a map in which entries are inserted one after the
other holds just these values (`CustomPayload.getElem?_after`).
-/

namespace CqlWire

variable {α β γ σ : Type}

/-! ### Steps -/

/-- The value that was given by the last step that gives one. -/
def lastGiven? (given? : γ → Option β) (steps : List γ) : Option β :=
  steps.reverse.findSome? given?

section Steps

variable {given? : γ → Option β} {steps : List γ}

theorem lastGiven?_append (steps later : List γ) :
    lastGiven? given? (steps ++ later)
      = (lastGiven? given? later).or (lastGiven? given? steps) := by
  rw [lastGiven?, List.reverse_append, List.findSome?_append]
  rfl

@[simp] theorem lastGiven?_singleton (step : γ) : lastGiven? given? [step] = given? step :=
  List.findSome?_singleton

theorem lastGiven?_concat (steps : List γ) (last : γ) :
    lastGiven? given? (steps ++ [last]) = (given? last).or (lastGiven? given? steps) := by
  rw [lastGiven?_append, lastGiven?_singleton]

theorem lastGiven?_eq_some_iff {value : β} :
    lastGiven? given? steps = some value ↔
      ∃ before step after, steps = before ++ step :: after ∧ given? step = some value ∧
        ∀ later ∈ after, given? later = none := by
  rw [lastGiven?, List.findSome?_eq_some_iff]
  constructor
  · rintro ⟨after, step, before, hsteps, hstep, hafter⟩
    refine ⟨before.reverse, step, after.reverse, ?_, hstep, fun later hlater => ?_⟩
    · rw [← steps.reverse_reverse, hsteps]
      simp
    · exact hafter later (List.mem_reverse.mp hlater)
  · rintro ⟨before, step, after, rfl, hstep, hafter⟩
    refine ⟨after.reverse, step, before.reverse, by simp, hstep, fun later hlater => ?_⟩
    exact hafter later (List.mem_reverse.mp hlater)

theorem lastGiven?_eq_none_iff :
    lastGiven? given? steps = none ↔ ∀ step ∈ steps, given? step = none := by
  rw [lastGiven?, List.findSome?_eq_none_iff]
  simp only [List.mem_reverse]

/-- Steps that give nothing do not count. -/
theorem lastGiven?_filter {p : γ → Bool} (h : ∀ step, p step = false → given? step = none)
    (steps : List γ) : lastGiven? given? (steps.filter p) = lastGiven? given? steps := by
  induction steps using List.reverseRecOn with
  | nil => rfl
  | append_singleton steps last ih =>
    rw [List.filter_append, lastGiven?_append, lastGiven?_concat, ih]
    cases hlast : p last with
    | true => rw [List.filter_cons_of_pos hlast, List.filter_nil, lastGiven?_singleton]
    | false =>
      rw [List.filter_cons_of_neg (Bool.eq_false_iff.mp hlast), List.filter_nil, h last hlast]
      rfl

/-- So lists with the same steps otherwise give the same. -/
theorem lastGiven?_eq_of_filter_eq {p : γ → Bool} {other : List γ}
    (h : ∀ step, p step = false → given? step = none) (hsame : other.filter p = steps.filter p) :
    lastGiven? given? other = lastGiven? given? steps := by
  rw [← lastGiven?_filter h other, hsame, lastGiven?_filter h]

/-- What is read after a run was given by its last step that gives something, or was there before
the run. -/
theorem get_foldl {step : σ → γ → σ} (get : σ → Option β)
    (h : ∀ state item, get (step state item) = (given? item).or (get state)) (start : σ)
    (items : List γ) :
    get (items.foldl step start) = (lastGiven? given? items).or (get start) := by
  induction items using List.reverseRecOn with
  | nil => rfl
  | append_singleton items last ih =>
    rw [List.foldl_concat, h, ih, lastGiven?_concat, Option.or_assoc]

end Steps

/-! ### Entries -/

section Entries

variable [DecidableEq α] {entries : List (α × β)} {key : α}

/-- The value that an entry gives to a key. -/
def valueFor? (key : α) (entry : α × β) : Option β :=
  if entry.1 = key then some entry.2 else none

/-- The value of the last entry of a key. -/
def lastOf? (entries : List (α × β)) (key : α) : Option β :=
  lastGiven? (valueFor? key) entries

theorem valueFor?_eq_some_iff {entry : α × β} {value : β} :
    valueFor? key entry = some value ↔ entry = (key, value) := by
  rw [valueFor?, Option.ite_none_right_eq_some, Option.some_inj, Prod.ext_iff]

theorem valueFor?_eq_none_iff {entry : α × β} : valueFor? key entry = none ↔ entry.1 ≠ key := by
  rw [valueFor?, ite_eq_right_iff]
  simp

theorem lastOf?_concat (entries : List (α × β)) (last : α × β) (key : α) :
    lastOf? (entries ++ [last]) key
      = if last.1 = key then some last.2 else lastOf? entries key := by
  rw [lastOf?, lastGiven?_concat, valueFor?]
  split_ifs <;> rfl

theorem lastOf?_eq_none_iff : lastOf? entries key = none ↔ key ∉ entries.map (·.1) := by
  rw [lastOf?, lastGiven?_eq_none_iff]
  simp only [valueFor?_eq_none_iff, List.mem_map, not_exists, not_and, ne_eq]

/-- The last entry of a key is one that no other entry of the key follows. -/
theorem lastOf?_eq_some_iff {value : β} :
    lastOf? entries key = some value ↔
      ∃ before after, entries = before ++ (key, value) :: after ∧
        ∀ later ∈ after, later.1 ≠ key := by
  rw [lastOf?, lastGiven?_eq_some_iff]
  simp only [valueFor?_eq_some_iff, valueFor?_eq_none_iff]
  constructor
  · rintro ⟨before, _, after, hentries, rfl, hafter⟩
    exact ⟨before, after, hentries, hafter⟩
  · rintro ⟨before, after, hentries, hafter⟩
    exact ⟨before, _, after, hentries, rfl, hafter⟩

end Entries

/-! ### Custom payloads -/

namespace CustomPayload

/-- The payload after entries were inserted one after the other. -/
def after (payload : CustomPayload) (entries : List (String × Bytes)) : CustomPayload :=
  entries.foldl (fun payload entry => payload.insert entry.1 entry.2) payload

theorem getElem?_insert (payload : CustomPayload) (entry : String × Bytes) (key : String) :
    (payload.insert entry.1 entry.2)[key]? = (valueFor? key entry).or payload[key]? := by
  rw [Std.ExtTreeMap.getElem?_insert, valueFor?]
  simp only [Std.LawfulEqCmp.compare_eq_iff_eq]
  split_ifs <;> rfl

/-- Under a key stands the content of its last entry, or else what stood there before. -/
theorem getElem?_after (payload : CustomPayload) (entries : List (String × Bytes)) (key : String) :
    (payload.after entries)[key]? = (lastOf? entries key).or payload[key]? :=
  get_foldl (fun payload : CustomPayload => payload[key]?)
    (fun payload entry => getElem?_insert payload entry key) payload entries

end CustomPayload

end CqlWire
