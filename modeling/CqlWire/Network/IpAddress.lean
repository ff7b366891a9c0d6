import CqlWire.Text.Numeral
import Std.Data.ExtTreeMap

/-!
# Internet addresses

Addresses of both versions, their written forms and their order.  A version 6 address is written as
eight hexadecimal groups; the longest run of two or more zero groups (the first one of equals) is
shortened to `::`, and an address that carries a version 4 address is written `::ffff:a.b.c.d`.

All version 4 addresses come before the version 6 ones, and addresses of one version are ordered by
their number.
-/

namespace CqlWire

/-- An address of either version, held as its number. -/
inductive IpAddress where
  | v4 (number : BitVec 32)
  | v6 (number : BitVec 128)
  deriving DecidableEq, Repr

namespace IpAddress

/-! ### Order -/

/-- The place of an address in the order of all addresses. -/
def rank : IpAddress → Nat
  | v4 number => number.toNat
  | v6 number => Nat.pow 2 32 + number.toNat

instance : Ord IpAddress := ⟨compareOn rank⟩

instance : Std.TransOrd IpAddress :=
  inferInstanceAs (Std.TransCmp (compareOn rank))

/-! ### Writing -/

/-- The four numbers of a dotted address, most significant first. -/
def octets (number : Nat) : List Nat :=
  [24, 16, 8, 0].map fun shift => number / Nat.pow 2 shift % 256

/-- The eight groups of a version 6 address, most significant first. -/
def groups (number : Nat) : List Nat :=
  [112, 96, 80, 64, 48, 32, 16, 0].map fun shift => number / Nat.pow 2 shift % 65536

/-- Four decimal numbers separated by dots. -/
def dotted (number : Nat) : String :=
  ".".intercalate ((octets number).map toString)

/-- Hexadecimal groups separated by colons. -/
def colons (parts : List Nat) : String :=
  ":".intercalate (parts.map (Text.hexadecimal 1))

/-- The number of zeros at the start of a list. -/
def leadingZeros (parts : List Nat) : Nat :=
  (parts.takeWhile (· == 0)).length

/-- Start and length of the longest run of zeros, the first one if several are longest. -/
def longestZeroRun (parts : List Nat) : Nat × Nat :=
  (List.range parts.length).foldl
    (fun best start =>
      let length := leadingZeros (parts.drop start)
      if best.2 < length then (start, length) else best)
    (0, 0)

/-- The written form of a version 6 address given by its groups. -/
def renderGroups (parts : List Nat) : String :=
  match longestZeroRun parts with
  | (start, length) =>
    if 2 ≤ length then colons (parts.take start) ++ "::" ++ colons (parts.drop (start + length))
    else colons parts

def render : IpAddress → String
  | v4 number => dotted number.toNat
  | v6 number =>
    if number.toNat / Nat.pow 2 32 = 0xFFFF then
      "::ffff:" ++ dotted (number.toNat % Nat.pow 2 32)
    else renderGroups (groups number.toNat)

instance : ToString IpAddress := ⟨render⟩

/-! ### Reading -/

/-- The number of a hexadecimal digit. -/
def hexValue? (c : Char) : Option Nat :=
  if '0' ≤ c ∧ c ≤ '9' then some (c.toNat - '0'.toNat)
  else if 'a' ≤ c ∧ c ≤ 'f' then some (c.toNat - 'a'.toNat + 10)
  else if 'A' ≤ c ∧ c ≤ 'F' then some (c.toNat - 'A'.toNat + 10)
  else none

/-- Reads a group: one to four hexadecimal digits. -/
def readGroup? (text : String) : Option Nat := do
  let digits ← text.toList.mapM hexValue?
  if digits.isEmpty || 4 < digits.length then none
  else some (digits.foldl (fun n digit => 16 * n + digit) 0)

/-- Reads one number of a dotted address: up to 255, without leading zeros. -/
def readOctet? (text : String) : Option Nat := do
  let n ← Text.readDigits? text.toList
  if n < 256 ∧ (text.toList.length = 1 ∨ text.toList.head? ≠ some '0') then some n else none

/-- Reads a dotted address as a number. -/
def readDotted? (text : String) : Option Nat := do
  let parts ← (text.splitOn ".").mapM readOctet?
  if parts.length = 4 then some (parts.foldl (fun n part => 256 * n + part) 0) else none

/-- Reads groups separated by colons, of which the last two may be given in dotted form. -/
def readParts? : List String → Option (List Nat)
  | [] => some []
  | [last] =>
    match readGroup? last with
    | some group => some [group]
    | none => (readDotted? last).map fun n => [n / 65536, n % 65536]
  | text :: rest => do return (← readGroup? text) :: (← readParts? rest)

/-- The pieces between the colons on one side of a `::`; nothing at all may stand there. -/
def sidePieces (text : String) : List String :=
  if text.isEmpty then [] else text.splitOn ":"

/-- Reads the eight groups of a version 6 address; a `::` stands for one or more zero groups. -/
def readGroups? (text : String) : Option (List Nat) :=
  match text.splitOn "::" with
  | [whole] => (readParts? (whole.splitOn ":")).filter (·.length = 8)
  | [left, right] => do
    let before ← (sidePieces left).mapM readGroup?
    let after ← readParts? (sidePieces right)
    if before.length + after.length < 8 then
      some (before ++ List.replicate (8 - before.length - after.length) 0 ++ after)
    else none
  | _ => none

/-- Reads an address of either version. -/
def parse? (text : String) : Option IpAddress :=
  match readDotted? text with
  | some n => some (v4 (BitVec.ofNat 32 n))
  | none =>
    (readGroups? text).map fun parts =>
      v6 (BitVec.ofNat 128 (parts.foldl (fun n part => 65536 * n + part) 0))

end IpAddress

end CqlWire
