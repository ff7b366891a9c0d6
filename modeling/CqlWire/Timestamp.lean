/-!
# Timestamps

A request may carry the time of a write in microseconds.  The least number stands for "none": the
server then assigns the time itself.

A source hands out a fixed sequence of numbers, one after the other: `TimestampSource.peek` is the
next one, and `TimestampSource.advance` goes on behind it.  The monotonic sequence follows a clock,
but never repeats or goes back: where the clock does not move on, the number before plus one is
taken.
-/

namespace CqlWire

/-- A time of a write, or `Timestamp.unset`. -/
abbrev Timestamp := Int64

/-- Leaves the time of a write to the server. -/
def Timestamp.unset : Timestamp := Int64.minValue

/-- A sequence of timestamps of which some have been handed out. -/
structure TimestampSource where
  sequence : Nat → Timestamp
  /-- How many have been handed out. -/
  drawn : Nat := 0

namespace TimestampSource

/-- The number handed out next. -/
def peek (source : TimestampSource) : Timestamp := source.sequence source.drawn

/-- The source after one more number has been handed out. -/
def advance (source : TimestampSource) : TimestampSource :=
  { source with drawn := source.drawn + 1 }

/-- Never hands out a time. -/
def serverSide : TimestampSource := { sequence := fun _ => Timestamp.unset }

/-- Hands out `start`, `start + step` and so on, wrapping around. -/
def counter (start step : Int64) : TimestampSource :=
  { sequence := fun n => start + step * Int64.ofNat n }

end TimestampSource

namespace Monotonic

/-- The number after `last` when the clock shows `now`. -/
def next (last now : Timestamp) : Timestamp :=
  if last < now then now else last + 1

/-- The numbers handed out after `last` for successive readings of the clock. -/
def drawsAfter (last : Timestamp) : List Timestamp → List Timestamp
  | [] => []
  | now :: later => next last now :: drawsAfter (next last now) later

/-- The numbers handed out from the start for successive readings of the clock. -/
def draws (readings : List Timestamp) : List Timestamp := drawsAfter 0 readings

/-- The number handed out at a given place when the clock shows `readings 0`, `readings 1`, … -/
def sequence (readings : Nat → Timestamp) : Nat → Timestamp
  | 0 => next 0 (readings 0)
  | n + 1 => next (sequence readings n) (readings (n + 1))

end Monotonic

/-- Hands out the monotonic sequence of a clock. -/
def TimestampSource.monotonic (readings : Nat → Timestamp) : TimestampSource :=
  { sequence := Monotonic.sequence readings }

end CqlWire
