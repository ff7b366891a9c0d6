import CqlWire.Proofs.Bytes

/-!
# The order of texts and of their bytes

Texts are compared character by character, and their bytes are compared byte by byte.  In UTF-8 both
come to the same (`Bytes.ofString_lt_ofString`).  The first byte of a character tells how many bytes
follow, and is the greater the more there are; it also has the first digits of the character to the
base 64, and the bytes that follow have the others.
-/

namespace CqlWire

/-! ### The bytes of a character -/

namespace Utf8

/-- How many bytes follow the first one of a character. -/
def trailing (code : Nat) : Nat :=
  if code < 0x80 then 0 else if code < 0x800 then 1 else if code < 0x10000 then 2 else 3

/-- What tells in the first byte how many others follow. -/
def mark : Nat → Nat
  | 0 => 0
  | 1 => 0xC0
  | 2 => 0xE0
  | _ => 0xF0

/-- The first byte of a character. -/
def lead (code : Nat) : Nat :=
  mark (trailing code) + code / 64 ^ trailing code

/-- The bytes of the last digits of a character, so many of them. -/
def digits : Nat → Nat → Bytes
  | 0, _ => []
  | count + 1, code => UInt8.ofNat (0x80 + code / 64 ^ count % 64) :: digits count code

theorem toNat_lt (c : Char) : c.val.toNat < 0x110000 := by
  rcases c.valid with h | ⟨-, h⟩
  · have hlt : c.val.toNat < 0xD800 := h
    omega
  · exact h

/-- A character is its first byte and the digits that follow. -/
theorem utf8EncodeChar_eq (c : Char) :
    String.utf8EncodeChar c
      = UInt8.ofNat (lead c.val.toNat) :: digits (trailing c.val.toNat) c.val.toNat := by
  have hlt := toNat_lt c
  unfold String.utf8EncodeChar lead trailing
  generalize c.val.toNat = code at hlt ⊢
  -- In each case the first digits fit into what the mark leaves free of the first byte.
  by_cases hone : code < 0x80
  · rw [if_pos hone, if_pos (Nat.le_of_lt_succ hone)]
    simp only [digits, mark, Nat.pow_zero, Nat.div_one, Nat.zero_add]
  rw [if_neg hone, if_neg (by omega)]
  by_cases htwo : code < 0x800
  · have hfits : code / 64 % 32 = code / 64 := Nat.mod_eq_of_lt (by omega)
    rw [if_pos htwo, if_pos (Nat.le_of_lt_succ htwo), hfits]
    simp only [digits, mark, Nat.pow_zero, Nat.pow_one, Nat.div_one, Nat.add_comm]
  rw [if_neg htwo, if_neg (by omega)]
  by_cases hthree : code < 0x10000
  · have hfits : code / 4096 % 16 = code / 4096 := Nat.mod_eq_of_lt (by omega)
    rw [if_pos hthree, if_pos (Nat.le_of_lt_succ hthree), hfits]
    simp only [digits, mark, Nat.reducePow, Nat.div_one, Nat.add_comm]
  · have hfits : code / 262144 % 8 = code / 262144 := Nat.mod_eq_of_lt (by omega)
    rw [if_neg hthree, if_neg (by omega), hfits]
    simp only [digits, mark, Nat.reducePow, Nat.div_one, Nat.add_comm]

/-! ### The order of characters -/

theorem trailing_le {code other : Nat} (h : code < other) : trailing code ≤ trailing other := by
  unfold trailing
  split_ifs <;> omega

theorem lead_lt {code : Nat} (h : code < 0x110000) : lead code < 256 := by
  unfold lead trailing
  split_ifs <;> simp only [mark] <;> omega

theorem lead_lt_lead {code other : Nat} (h : trailing code < trailing other) :
    lead code < lead other := by
  unfold lead
  unfold trailing at h ⊢
  split_ifs at h ⊢ <;> simp only [mark] <;> omega

/-- Of two characters with the same digits in front, the greater one has the greater last digits. -/
theorem digits_append_lt {count code other : Nat} (h : code < other)
    (hsame : code / 64 ^ count = other / 64 ^ count) (rest rest' : Bytes) :
    digits count code ++ rest < digits count other ++ rest' := by
  induction count with
  | zero =>
    rw [Nat.pow_zero, Nat.div_one, Nat.div_one] at hsame
    exact absurd hsame h.ne
  | succ count ih =>
    rw [digits, digits, List.cons_append, List.cons_append, List.cons_lt_cons_iff]
    rw [Nat.pow_succ, ← Nat.div_div_eq_div_mul, ← Nat.div_div_eq_div_mul] at hsame
    have hle : code / 64 ^ count ≤ other / 64 ^ count := Nat.div_le_div_right h.le
    rcases hle.lt_or_eq with hlt | heq
    · -- The digits in front are the same, so it is this one that is greater.
      left
      rw [UInt8.lt_iff_toNat_lt, UInt8.toNat_ofNat', UInt8.toNat_ofNat']
      omega
    · exact .inr ⟨by rw [heq], ih heq⟩

/-- Of two characters, the greater one has the greater bytes, whatever follows. -/
theorem utf8EncodeChar_append_lt {c d : Char} (h : c < d) (rest rest' : Bytes) :
    String.utf8EncodeChar c ++ rest < String.utf8EncodeChar d ++ rest' := by
  have hlt : c.val.toNat < d.val.toNat := h
  have hc := lead_lt (toNat_lt c)
  have hd := lead_lt (toNat_lt d)
  have hlead : UInt8.ofNat (lead c.val.toNat) < UInt8.ofNat (lead d.val.toNat) ↔
      lead c.val.toNat < lead d.val.toNat := by
    rw [UInt8.lt_iff_toNat_lt, UInt8.toNat_ofNat', UInt8.toNat_ofNat', Nat.mod_eq_of_lt hc,
      Nat.mod_eq_of_lt hd]
  rw [utf8EncodeChar_eq, utf8EncodeChar_eq, List.cons_append, List.cons_append,
    List.cons_lt_cons_iff, hlead]
  -- More bytes to follow make the first one greater; with as many, the digits decide.
  rcases (trailing_le hlt).lt_or_eq with htrailing | htrailing
  · exact .inl (lead_lt_lead htrailing)
  · have hle : c.val.toNat / 64 ^ trailing c.val.toNat ≤ d.val.toNat / 64 ^ trailing c.val.toNat :=
      Nat.div_le_div_right hlt.le
    rw [lead, lead, ← htrailing]
    rcases hle.lt_or_eq with hfront | hfront
    · exact .inl (Nat.add_lt_add_left hfront _)
    · exact .inr ⟨by rw [hfront], digits_append_lt hlt hfront rest rest'⟩

end Utf8

/-! ### The order of texts -/

/-- The bytes of characters are in the order of the characters. -/
theorem Utf8.flatMap_lt_flatMap {cs ds : List Char} (h : cs < ds) :
    cs.flatMap String.utf8EncodeChar < ds.flatMap String.utf8EncodeChar := by
  induction cs generalizing ds with
  | nil =>
    cases ds with
    | nil => exact absurd h (List.lt_irrefl [])
    | cons d ds =>
      rw [List.flatMap_cons, utf8EncodeChar_eq]
      exact List.nil_lt_cons _ _
  | cons c cs ih =>
    cases ds with
    | nil => exact absurd h (List.not_lt_nil _)
    | cons d ds =>
      rw [List.flatMap_cons, List.flatMap_cons]
      rcases List.cons_lt_cons_iff.mp h with hlt | ⟨rfl, hrest⟩
      · exact utf8EncodeChar_append_lt hlt _ _
      · exact List.append_left_lt (ih hrest)

/-- **A lesser text has lesser bytes.** -/
theorem Bytes.ofString_lt_ofString {s t : String} (h : s < t) : ofString s < ofString t := by
  rw [← s.ofList_toList, ← t.ofList_toList, ofString_ofList, ofString_ofList]
  exact Utf8.flatMap_lt_flatMap h

end CqlWire
