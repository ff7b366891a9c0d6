import CqlWire.Text.Blank
import CqlWire.Text.Numeral
import Mathlib.Data.List.Induction

/-!
# Numerals and the numbers that they write

A numeral is a run of ASCII digits, which a plus sign may precede; it may have any length and any
number of leading zeros, and it writes exactly one number (`IsNumeral.unique`).  A byte is read from
exactly the numerals of the numbers below 256 (`readByte?_eq_some_iff`).  Its digits are taken in
one after the other, in the arithmetic of bytes, and a number that becomes too large on the way is
refused and never cut down to its remainder.
-/

namespace CqlWire.Text

variable {chars digits : List Char} {digit : Char} {byte shorter : UInt8} {m n : Nat}

/-! ### Numerals -/

/-- Whether characters are the decimal digits of a number. -/
structure AreDigitsOf (chars : List Char) (n : Nat) : Prop where
  ne_nil : chars ≠ []
  isDigit : ∀ c ∈ chars, c.isDigit
  value : Nat.ofDigitChars 10 chars 0 = n

/-- Whether characters write a number: by its digits, with or without a plus sign. -/
inductive IsNumeral : List Char → Nat → Prop
  | unsigned {digits : List Char} {n : Nat} (h : AreDigitsOf digits n) : IsNumeral digits n
  | signed {digits : List Char} {n : Nat} (h : AreDigitsOf digits n) : IsNumeral ('+' :: digits) n

theorem not_areDigitsOf_plus : ¬ AreDigitsOf ('+' :: chars) n := by
  intro h
  have hplus : '+'.isDigit = true := h.isDigit '+' List.mem_cons_self
  exact absurd hplus (by decide)

/-- Behind a plus sign there are digits only. -/
theorem isNumeral_plus_cons_iff : IsNumeral ('+' :: digits) n ↔ AreDigitsOf digits n := by
  constructor
  · intro h
    cases h with
    | unsigned h => exact absurd h not_areDigitsOf_plus
    | signed h => exact h
  · exact .signed

theorem isNumeral_iff_areDigitsOf (hplus : ∀ digits, chars = '+' :: digits → False) :
    IsNumeral chars n ↔ AreDigitsOf chars n := by
  constructor
  · intro h
    cases h with
    | unsigned h => exact h
    | signed h => exact (hplus _ rfl).elim
  · exact .unsigned

namespace IsNumeral

theorem ne_nil (h : IsNumeral chars n) : chars ≠ [] := by
  cases h with
  | unsigned h => exact h.ne_nil
  | signed h => exact List.cons_ne_nil _ _

theorem eq_plus_or_isDigit (h : IsNumeral chars n) {c : Char} (hc : c ∈ chars) :
    c = '+' ∨ c.isDigit := by
  cases h with
  | unsigned h => exact .inr (h.isDigit c hc)
  | signed h => exact (List.mem_cons.mp hc).imp_right (h.isDigit c)

/-- A numeral writes one number only. -/
theorem unique (h : IsNumeral chars m) (h' : IsNumeral chars n) : m = n := by
  cases h' with
  | unsigned h' =>
    cases h with
    | unsigned h => exact h.value.symm.trans h'.value
    | signed _ => exact absurd h' not_areDigitsOf_plus
  | signed h' => exact (isNumeral_plus_cons_iff.mp h).value.symm.trans h'.value

end IsNumeral

/-- A number is shown by its shortest numeral, without a sign. -/
theorem isNumeral_toString (n : Nat) : IsNumeral (toString n).toList n := by
  rw [Nat.toString_eq_ofList_toDigits, String.toList_ofList]
  exact .unsigned {
    ne_nil := Nat.toDigits_ne_nil
    isDigit := fun _ => Nat.isDigit_of_mem_toDigits (by decide) (by decide)
    value := Nat.ofDigitChars_ten_toDigits }

/-- Digits are no blank characters. -/
theorem isBlank_of_isDigit (h : digit.isDigit) : isBlank digit = false := by
  obtain ⟨hfrom, hto⟩ := Char.isDigit_iff_toNat.mp h
  have hfrom : 48 ≤ digit.toNat := hfrom
  have hto : digit.toNat ≤ 57 := hto
  unfold isBlank
  simp only [Bool.or_eq_false_iff, Bool.and_eq_false_iff, decide_eq_false_iff_not,
    beq_eq_false_iff_ne]
  omega

/-! ### Bytes -/

theorem ofDigitChars_concat (digits : List Char) (digit : Char) :
    Nat.ofDigitChars 10 (digits ++ [digit]) 0 =
      10 * Nat.ofDigitChars 10 digits 0 + digitValue digit := by
  rw [Nat.ofDigitChars_append, Nat.ofDigitChars_cons, Nat.ofDigitChars_nil, digitValue]

/-- One more digit makes the number that it makes outside of bytes, or none. -/
theorem pushDigit?_eq_some_iff :
    pushDigit? shorter digit = some byte ↔
      10 * shorter.toNat + digitValue digit = byte.toNat := by
  have hbyte : byte.toNat < 256 := byte.toNat_lt
  unfold pushDigit?
  split_ifs with hfits
  · have hlonger : (10 * shorter + UInt8.ofNat (digitValue digit)).toNat =
        10 * shorter.toNat + digitValue digit := by
      -- Neither the product nor the sum wraps around, since the result fits.
      rw [UInt8.toNat_add, UInt8.toNat_mul, UInt8.toNat_ofNat']
      show (10 * shorter.toNat % 256 + digitValue digit % 256) % 256 = _
      omega
    rw [Option.some.injEq, ← UInt8.toNat_inj, hlonger]
  · refine iff_of_false nofun ?_
    omega

/-- The digits taken in so far make the number that they make outside of bytes, or none. -/
theorem foldlM_pushDigit?_eq_some_iff (digits : List Char) :
    digits.foldlM pushDigit? 0 = some byte ↔ Nat.ofDigitChars 10 digits 0 = byte.toNat := by
  -- From the last digit back: digits too large for a byte stay too large with one more behind them.
  induction digits using List.reverseRecOn generalizing byte with
  | nil =>
    rw [List.foldlM_nil, Nat.ofDigitChars_nil]
    show some 0 = some byte ↔ (0 : UInt8).toNat = byte.toNat
    rw [Option.some.injEq, UInt8.toNat_inj]
  | append_singleton digits digit ih =>
    have hbyte : byte.toNat < 256 := byte.toNat_lt
    have hlast : (digits ++ [digit]).foldlM pushDigit? 0 =
        (digits.foldlM pushDigit? 0).bind (pushDigit? · digit) := by
      simp
    rw [hlast, ofDigitChars_concat, Option.bind_eq_some_iff]
    constructor
    · rintro ⟨shorter, hshorter, hpush⟩
      rw [ih.mp hshorter]
      exact pushDigit?_eq_some_iff.mp hpush
    · intro hvalue
      have hfits : Nat.ofDigitChars 10 digits 0 < 256 := by omega
      have hshorter := UInt8.toNat_ofNat_of_lt' hfits
      refine ⟨UInt8.ofNat (Nat.ofDigitChars 10 digits 0), ih.mpr hshorter.symm, ?_⟩
      rw [pushDigit?_eq_some_iff, hshorter]
      exact hvalue

theorem readByteDigits?_eq_some_iff :
    readByteDigits? chars = some byte ↔ AreDigitsOf chars byte.toNat := by
  have hguard : (!chars.isEmpty && chars.all Char.isDigit) = true ↔
      chars ≠ [] ∧ ∀ c ∈ chars, c.isDigit := by
    rw [Bool.and_eq_true, Bool.not_eq_true', List.isEmpty_eq_false_iff, List.all_eq_true]
  unfold readByteDigits?
  split_ifs with hdigits
  · obtain ⟨hne, hall⟩ := hguard.mp hdigits
    rw [foldlM_pushDigit?_eq_some_iff]
    exact ⟨fun hvalue => ⟨hne, hall, hvalue⟩, AreDigitsOf.value⟩
  · exact iff_of_false nofun fun h => hdigits (hguard.mpr ⟨h.ne_nil, h.isDigit⟩)

theorem readByte?_eq_some_iff : readByte? chars = some byte ↔ IsNumeral chars byte.toNat := by
  unfold readByte?
  split
  · rw [readByteDigits?_eq_some_iff, isNumeral_plus_cons_iff]
  · next hplus => rw [readByteDigits?_eq_some_iff, isNumeral_iff_areDigitsOf hplus]

end CqlWire.Text
