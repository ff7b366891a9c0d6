import CqlWire.Timestamp
import Mathlib.Algebra.Group.Int.Defs
import Mathlib.Algebra.Group.Nat.Defs
import Mathlib.Data.List.Forall2
import Mathlib.Order.Lattice

/-!
# Timestamps that follow a clock

The monotonic sequence goes on whatever the clock does.  One draw takes the reading of the clock or
the number after the last one, whichever is greater (`Monotonic.toInt_next`), as long as there is
room for the draws that are left (`Monotonic.HasRoom`), which each draw preserves.  So the number at
a place is the highest of the levels that its own place and the readings until then give to it
(`Monotonic.max?_levels`).

`Monotonic.draws_of_clock` collects what follows: the numbers grow, none is behind its reading, none
stands for "none", and nothing overflows on the way.
-/

namespace CqlWire

namespace Monotonic

variable {last now : Timestamp} {readings later : List Timestamp}

/-! ### One draw -/

/-- Whether the arithmetic of one draw stays in the range of a timestamp.  Where the clock has not
moved on, it is computed how far the clock is behind, and which number comes after the last one. -/
def InRange (last now : Timestamp) : Prop :=
  ¬ last < now → (last - now).toInt = last.toInt - now.toInt ∧ (last + 1).toInt = last.toInt + 1

/-- A number that a timestamp can hold is not wrapped around. -/
theorem bmod_eq_self {number : Int} (hlow : -2 ^ 63 ≤ number) (hhigh : number < 2 ^ 63) :
    number.bmod (2 ^ 64) = number :=
  Int.bmod_eq_of_le (by omega) (by omega)

theorem toInt_add_one (hroom : last.toInt + 1 < 2 ^ 63) : (last + 1).toInt = last.toInt + 1 := by
  have hlow : -2 ^ 63 ≤ last.toInt := last.le_toInt
  have hone : (1 : Timestamp).toInt = 1 := rfl
  rw [Int64.toInt_add, hone]
  apply bmod_eq_self
  · omega
  · exact hroom

/-- A draw takes the number after the last one or the reading, whichever is greater. -/
theorem toInt_next (hroom : last.toInt + 1 < 2 ^ 63) :
    (next last now).toInt = max (last.toInt + 1) now.toInt := by
  unfold next
  split_ifs with hmoved
  · have hless : last.toInt < now.toInt := Int64.lt_iff_toInt_lt.mp hmoved
    omega
  · have hbehind : ¬ last.toInt < now.toInt := fun h => hmoved (Int64.lt_iff_toInt_lt.mpr h)
    rw [toInt_add_one hroom]
    omega

theorem lt_next (hroom : last.toInt + 1 < 2 ^ 63) : last < next last now := by
  rw [Int64.lt_iff_toInt_lt, toInt_next hroom]
  omega

theorem le_next (hroom : last.toInt + 1 < 2 ^ 63) : now ≤ next last now := by
  rw [Int64.le_iff_toInt_le, toInt_next hroom]
  exact le_max_right ..

theorem inRange (hlast : 0 ≤ last) (hnow : 0 ≤ now) (hroom : last.toInt + 1 < 2 ^ 63) :
    InRange last now := by
  intro _
  have hlow : 0 ≤ last.toInt := Int64.le_iff_toInt_le.mp hlast
  have hlow' : 0 ≤ now.toInt := Int64.le_iff_toInt_le.mp hnow
  have hhigh : last.toInt < 2 ^ 63 := last.toInt_lt
  have hhigh' : now.toInt < 2 ^ 63 := now.toInt_lt
  refine ⟨?_, toInt_add_one hroom⟩
  rw [Int64.toInt_sub]
  -- Neither of the two is negative, so their difference is no further from zero than they are.
  apply bmod_eq_self
  · omega
  · omega

/-! ### Room for the draws that are left -/

/-- Whether the last number and all readings leave room for one more number with each draw. -/
structure HasRoom (last : Timestamp) (readings : List Timestamp) : Prop where
  last_lt : last.toInt + readings.length < 2 ^ 63
  reading_lt : ∀ reading ∈ readings, reading.toInt + readings.length < 2 ^ 63

namespace HasRoom

theorem one (h : HasRoom last (now :: later)) : last.toInt + 1 < 2 ^ 63 := by
  have hlast := h.last_lt
  rw [List.length_cons] at hlast
  omega

theorem next (h : HasRoom last (now :: later)) : HasRoom (next last now) later := by
  have hlast := h.last_lt
  have hnow := h.reading_lt now List.mem_cons_self
  rw [List.length_cons] at hlast hnow
  constructor
  · rw [toInt_next h.one]
    omega
  · intro reading hreading
    have hlater := h.reading_lt reading (List.mem_cons_of_mem _ hreading)
    rw [List.length_cons] at hlater
    omega

end HasRoom

/-! ### All draws -/

@[simp] theorem length_drawsAfter (last : Timestamp) (readings : List Timestamp) :
    (drawsAfter last readings).length = readings.length := by
  induction readings generalizing last with
  | nil => rfl
  | cons now later ih => rw [drawsAfter, List.length_cons, ih, List.length_cons]

/-- Each number is greater than all numbers before. -/
theorem pairwise_drawsAfter (h : HasRoom last readings) :
    (last :: drawsAfter last readings).Pairwise (· < ·) := by
  induction readings generalizing last with
  | nil => exact List.pairwise_singleton _ _
  | cons now later ih =>
    have hnext : last < Monotonic.next last now := lt_next h.one
    have hlater := ih h.next
    have habove := (List.pairwise_cons.mp hlater).1
    rw [drawsAfter]
    refine List.pairwise_cons.mpr ⟨List.forall_mem_cons.mpr ⟨hnext, ?_⟩, hlater⟩
    intro draw hdraw
    exact Int64.lt_trans hnext (habove draw hdraw)

/-- No number is behind the clock. -/
theorem readings_le_drawsAfter (h : HasRoom last readings) :
    List.Forall₂ (· ≤ ·) readings (drawsAfter last readings) := by
  induction readings generalizing last with
  | nil => exact .nil
  | cons now later ih => exact .cons (le_next h.one) (ih h.next)

/-- The arithmetic of each draw stays in range. -/
theorem inRange_drawsAfter {place : Nat} {previous : Timestamp} (h : HasRoom last readings)
    (hlast : 0 ≤ last) (hreadings : ∀ reading ∈ readings, 0 ≤ reading)
    (hprevious : (last :: drawsAfter last readings)[place]? = some previous)
    (hnow : readings[place]? = some now) : InRange previous now := by
  induction readings generalizing last place with
  | nil => exact nomatch hnow
  | cons first later ih =>
    obtain ⟨hfirst, hlater⟩ := List.forall_mem_cons.mp hreadings
    cases place with
    | zero =>
      obtain rfl := Option.some.inj hprevious
      obtain rfl := Option.some.inj hnow
      exact inRange hlast hfirst h.one
    | succ place =>
      have hnext : 0 ≤ Monotonic.next last first :=
        Int64.le_trans hlast (Int64.le_of_lt (lt_next h.one))
      exact ih h.next hnext hlater hprevious hnow

/-! ### The number at a place -/

/-- The levels to which the number at a place rises: that of the last number before all draws, and
that of each reading until then, with one more for each draw since. -/
def levels (last : Timestamp) (readings : List Timestamp) (place : Nat) : List Int :=
  (last.toInt + (place + 1)) ::
    (readings.take (place + 1)).mapIdx fun earlier reading => reading.toInt + (place - earlier)

/-- The last number and the first reading count as much as the number that is drawn from them. -/
theorem max?_levels_cons (hroom : last.toInt + 1 < 2 ^ 63) (later : List Timestamp) (place : Nat) :
    (levels last (now :: later) (place + 1)).max?
      = (levels (next last now) later place).max? := by
  have hnext : (next last now).toInt = max (last.toInt + 1) now.toInt := toInt_next hroom
  have hfirst : max (last.toInt + ((place + 1 : Nat) + 1))
      (now.toInt + ((place + 1 : Nat) - (0 : Nat))) = (next last now).toInt + (place + 1) := by
    omega
  have hrest : ((later.take (place + 1)).mapIdx fun earlier reading =>
        reading.toInt + ((place + 1 : Nat) - (earlier + 1 : Nat) : Int))
      = (later.take (place + 1)).mapIdx fun earlier reading =>
        reading.toInt + (place - earlier : Int) := by
    congr 1
    funext earlier reading
    omega
  rw [levels, levels, List.take_succ_cons, List.mapIdx_cons, List.max?_cons', List.max?_cons',
    List.foldl_cons, hfirst, hrest]

theorem max?_levels {place : Nat} {draw : Timestamp} (h : HasRoom last readings)
    (hdraw : (drawsAfter last readings)[place]? = some draw) :
    (levels last readings place).max? = some draw.toInt := by
  induction readings generalizing last place with
  | nil => exact nomatch hdraw
  | cons now later ih =>
    cases place with
    | zero =>
      obtain rfl := Option.some.inj hdraw
      rw [toInt_next h.one]
      simp [levels]
    | succ place =>
      rw [max?_levels_cons h.one]
      exact ih h.next hdraw

/-! ### The source of a clock -/

theorem drawsAfter_concat (last : Timestamp) (readings : List Timestamp) (now : Timestamp) :
    drawsAfter last (readings ++ [now])
      = drawsAfter last readings ++ [next ((drawsAfter last readings).getLastD last) now] := by
  induction readings generalizing last with
  | nil => rfl
  | cons first later ih =>
    rw [List.cons_append, drawsAfter, ih, drawsAfter, List.cons_append, List.getLastD_cons]

/-- A source hands out the draws for the readings of its clock. -/
theorem draws_map_range (clock : Nat → Timestamp) (count : Nat) :
    draws ((List.range count).map clock) = (List.range count).map (sequence clock) := by
  induction count with
  | zero => rfl
  | succ count ih =>
    have hlast : next (((List.range count).map (sequence clock)).getLastD 0) (clock count)
        = sequence clock count := by
      cases count with
      | zero => rfl
      | succ count => rw [List.range_succ, List.map_append, List.map_singleton,
          List.getLastD_concat, sequence]
    rw [draws] at ih
    rw [draws, List.range_succ, List.map_append, List.map_singleton, drawsAfter_concat, ih, hlast,
      List.map_append, List.map_singleton]

/-! ### A fresh sequence -/

/-- **A fresh sequence grows whatever the clock does.**  If no reading is negative and all readings
leave room for the draws, there is one number for each reading, and it is the highest of the levels
of its place: the place itself, counted from one, and the readings until then, each with one more
for each draw since.  Each number is greater than the ones before, is not behind its reading, is
positive and does not stand for "none", and what is computed on the way stays in range.  The source
of a clock with these readings hands out the same numbers. -/
theorem draws_of_clock {readings : List Timestamp} (hstart : ∀ reading ∈ readings, 0 ≤ reading)
    (hroom : ∀ reading ∈ readings, reading.toInt + readings.length < 2 ^ 63) :
    (draws readings).length = readings.length ∧
    (∀ place draw, (draws readings)[place]? = some draw →
      (levels 0 readings place).max? = some draw.toInt) ∧
    (draws readings).Pairwise (· < ·) ∧
    List.Forall₂ (· ≤ ·) readings (draws readings) ∧
    (∀ draw ∈ draws readings, 0 < draw ∧ draw ≠ Timestamp.unset) ∧
    (∀ (place : Nat) (last now : Timestamp), (0 :: draws readings)[place]? = some last →
      readings[place]? = some now → InRange last now) ∧
    ∀ clock, (List.range readings.length).map clock = readings →
      (List.range readings.length).map (TimestampSource.monotonic clock).sequence
        = draws readings := by
  have hfresh : HasRoom 0 readings := by
    refine ⟨?_, hroom⟩
    cases readings with
    | nil => decide
    | cons first later =>
      have hfirst : 0 ≤ first.toInt := Int64.le_iff_toInt_le.mp (hstart first List.mem_cons_self)
      have hleft := hroom first List.mem_cons_self
      have hzero : (0 : Timestamp).toInt = 0 := rfl
      omega
  have hgrow := List.pairwise_cons.mp (pairwise_drawsAfter hfresh)
  refine ⟨length_drawsAfter 0 readings, fun place draw => max?_levels hfresh, hgrow.2,
    readings_le_drawsAfter hfresh, fun draw hdraw => ⟨hgrow.1 draw hdraw, ?_⟩,
    fun place last now => inRange_drawsAfter hfresh (by decide) hstart, fun clock hclock => ?_⟩
  · rintro rfl
    exact absurd (hgrow.1 _ hdraw) (by decide)
  · have hdraws := draws_map_range clock readings.length
    rw [hclock] at hdraws
    exact hdraws.symm

/-- A clock that stands still, jumps ahead, and then jumps back and stands still again. -/
def jumpingClock : List Timestamp := [0, 0, 7, 3, 3]

/-- The jump ahead still shows in the last number, for which the clock is five behind. -/
theorem draws_of_clock_of_jumpingClock :
    draws jumpingClock = [1, 2, 7, 8, 9] ∧ levels 0 jumpingClock 4 = [5, 4, 3, 9, 4, 3] ∧
      (levels 0 jumpingClock 4).max? = some 9 ∧ (draws jumpingClock).Pairwise (· < ·) ∧
      ((8 : Timestamp) - 3).toInt = 5 := by
  have hreadings : ∀ reading ∈ jumpingClock, 0 ≤ reading ∧ reading.toInt + 5 < 2 ^ 63 := by
    simp only [jumpingClock, List.forall_mem_cons, List.not_mem_nil, false_implies, implies_true,
      and_true]
    decide
  have hstart : ∀ reading ∈ jumpingClock, 0 ≤ reading := fun reading h => (hreadings reading h).1
  have hroom : ∀ reading ∈ jumpingClock, reading.toInt + jumpingClock.length < 2 ^ 63 :=
    fun reading h => (hreadings reading h).2
  obtain ⟨-, hlevels, hgrow, -, -, hrange, -⟩ := draws_of_clock hstart hroom
  have hdraws : draws jumpingClock = [1, 2, 7, 8, 9] := by decide
  have hbehind := hrange 4 8 3 (by rw [hdraws]; rfl) rfl (by decide)
  refine ⟨hdraws, rfl, ?_, hgrow, hbehind.1⟩
  exact hlevels 4 9 (by rw [hdraws]; rfl)

end Monotonic

end CqlWire
