import CqlWire.Bytes

/-!
# Where ill-formed text goes wrong

A byte string that is not well-formed UTF-8 is reported by the place of its first fault.  Reading
goes sequence by sequence: the lead byte decides which ranges the following bytes must lie in.  A
sequence is either broken by a byte outside its range (the fault then covers the bytes read before
that one) or cut off by the end of the input.
-/

namespace CqlWire.Text

/-- The first fault of an ill-formed byte string. -/
inductive Utf8Fault where
  /-- A sequence that starts at `index` can not be continued after its first `width` bytes. -/
  | invalid (index width : Nat)
  /-- The input ends inside the sequence that starts at `index`. -/
  | incomplete (index : Nat)
  deriving DecidableEq, Repr

namespace Utf8Fault

def message : Utf8Fault → String
  | invalid index width => s!"invalid utf-8 sequence of {width} bytes from index {index}"
  | incomplete index => s!"incomplete utf-8 byte sequence from index {index}"

/-- The least and the greatest byte allowed at one place of a sequence. -/
abbrev Range := UInt8 × UInt8

/-- The range of a continuation byte that the lead byte does not restrict further. -/
def continuation : Range := (0x80, 0xBF)

/-- The ranges of the bytes that have to follow a lead byte, or `none` if no sequence starts with
this byte.  The narrower ranges exclude overlong forms, surrogates and numbers above `0x10FFFF`. -/
def followers (lead : UInt8) : Option (List Range) :=
  if lead < 0x80 then some []
  else if lead < 0xC2 then none
  else if lead < 0xE0 then some [continuation]
  else if lead = 0xE0 then some [(0xA0, 0xBF), continuation]
  else if lead = 0xED then some [(0x80, 0x9F), continuation]
  else if lead < 0xF0 then some [continuation, continuation]
  else if lead = 0xF0 then some [(0x90, 0xBF), continuation, continuation]
  else if lead < 0xF4 then some [continuation, continuation, continuation]
  else if lead = 0xF4 then some [(0x80, 0x8F), continuation, continuation]
  else none

/-- Reading on inside a byte string: `seen` bytes of the sequence that starts at `start` have been
read, and `expected` holds the ranges of those still to come. -/
def locateFrom (start seen : Nat) : (expected : List Range) → Bytes → Utf8Fault
  | [], [] => incomplete (start + seen)
  | _ :: _, [] => incomplete start
  | [], lead :: rest =>
    match followers lead with
    | none => invalid (start + seen) 1
    | some expected => locateFrom (start + seen) 1 expected rest
  | (low, high) :: expected, byte :: rest =>
    if low ≤ byte ∧ byte ≤ high then locateFrom start (seen + 1) expected rest
    else invalid start seen

/-- The first fault of a byte string that is not well-formed. -/
def locate (bytes : Bytes) : Utf8Fault :=
  locateFrom 0 0 [] bytes

end Utf8Fault

end CqlWire.Text
