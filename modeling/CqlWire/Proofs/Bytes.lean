import CqlWire.Bytes
import Mathlib.Data.Nat.ModEq
import Mathlib.Tactic.Ring
import Mathlib.Tactic.SplitIfs

/-!
# Numbers and texts in bytes

A number that is written in a given width is read back modulo the room that the width has, with a
sign or without (`toNat_bigEndian`, `toInt_bigEndian`), and a text is told by its bytes.  So numbers
that fit, and texts, are equal when their bytes are (`bigEndian_inj`, `ofString_inj`).

Conversely, bytes of one length are told by the number that they are read as, with a sign or without
(`eq_of_toNat_eq`, `eq_of_toInt_eq`), and they are what this number is written as
(`bigEndian_toNat`).  A sign is in the first bit alone (`toInt_eq_toNat_sub`).  The bytes that are a
text are those of well-formed UTF-8 (`exists_toString?_eq_some_iff`).
-/

namespace CqlWire.Bytes

/-! ### Numbers -/

/-- Reading on after a number `acc` moves it up by the width of what is read. -/
theorem foldl_eq (bytes : Bytes) (acc : Nat) :
    bytes.foldl (fun n byte => 256 * n + byte.toNat) acc
      = acc * 256 ^ bytes.length + bytes.toNat := by
  unfold toNat
  induction bytes generalizing acc with
  | nil => simp
  | cons byte bytes ih =>
    rw [List.foldl_cons, List.foldl_cons, ih, ih (256 * 0 + byte.toNat), List.length_cons,
      Nat.pow_succ]
    ring

/-- The first byte is the most significant digit. -/
theorem toNat_cons (byte : UInt8) (bytes : Bytes) :
    toNat (byte :: bytes) = byte.toNat * 256 ^ bytes.length + bytes.toNat := by
  rw [toNat, List.foldl_cons, foldl_eq, Nat.mul_zero, Nat.zero_add]

theorem toNat_lt (bytes : Bytes) : bytes.toNat < 256 ^ bytes.length := by
  induction bytes with
  | nil => exact Nat.one_pos
  | cons byte bytes ih =>
    have hbyte : byte.toNat * 256 ^ bytes.length ≤ 255 * 256 ^ bytes.length :=
      Nat.mul_le_mul_right _ (Nat.le_of_lt_succ byte.toNat_lt)
    rw [toNat_cons, List.length_cons, Nat.pow_succ]
    omega

/-- A number is read back as far as the width has room for it. -/
theorem toNat_bigEndian (width n : Nat) : toNat (bigEndian width n) = n % 256 ^ width := by
  induction width with
  | zero => exact (Nat.mod_one n).symm
  | succ width ih =>
    have hdigit : (UInt8.ofNat (n / 256 ^ width)).toNat = n / 256 ^ width % 256 :=
      UInt8.toNat_ofNat'
    rw [bigEndian, Nat.pow_eq, toNat_cons, ih, hdigit, length_bigEndian, Nat.mod_pow_succ]
    ring

/-- Numbers that the width has room for are told by their bytes. -/
theorem bigEndian_inj {width m n : Nat} (hm : m < 256 ^ width) (hn : n < 256 ^ width)
    (h : bigEndian width m = bigEndian width n) : m = n := by
  have hmod := congrArg toNat h
  rwa [toNat_bigEndian, toNat_bigEndian, Nat.mod_eq_of_lt hm, Nat.mod_eq_of_lt hn] at hmod

/-- The first digit is what is left if the room of the others is divided away. -/
theorem toNat_cons_div (byte : UInt8) (bytes : Bytes) :
    toNat (byte :: bytes) / 256 ^ bytes.length = byte.toNat := by
  rw [toNat_cons, Nat.mul_comm, Nat.mul_add_div (Nat.pow_pos (by decide)),
    Nat.div_eq_of_lt (toNat_lt bytes), Nat.add_zero]

/-- Bytes of one length are told by the number that they are read as. -/
theorem eq_of_toNat_eq {bytes other : Bytes} (hlength : bytes.length = other.length)
    (h : bytes.toNat = other.toNat) : bytes = other := by
  induction bytes generalizing other with
  | nil => exact (List.length_eq_zero_iff.mp hlength.symm).symm
  | cons byte bytes ih =>
    cases other with
    | nil => exact nomatch hlength
    | cons first rest =>
      have hrest : bytes.length = rest.length := Nat.succ.inj hlength
      have hfirst : byte.toNat = first.toNat := by
        rw [← toNat_cons_div byte bytes, ← toNat_cons_div first rest, h, hrest]
      rw [toNat_cons, toNat_cons, hfirst, hrest] at h
      rw [UInt8.toNat_inj.mp hfirst, ih hrest (Nat.add_left_cancel h)]

/-- Bytes are what the number that they are read as is written as in their width. -/
theorem bigEndian_toNat (bytes : Bytes) : bigEndian bytes.length bytes.toNat = bytes := by
  refine eq_of_toNat_eq (length_bigEndian _ _) ?_
  rw [toNat_bigEndian, Nat.mod_eq_of_lt (toNat_lt bytes)]

/-! ### Two's complement -/

/-- The number without a sign, less the room of the width if the first bit is set. -/
theorem toInt_eq_toNat_sub (byte : UInt8) (bytes : Bytes) :
    toInt (byte :: bytes)
      = toNat (byte :: bytes) - if byte < 0x80 then 0 else 256 ^ (byte :: bytes).length := by
  have hrest := toNat_lt bytes
  have hbyte := byte.toNat_lt
  have hsign : byte < 0x80 ↔ byte.toNat < 128 := UInt8.lt_iff_toNat_lt
  have hwidth : ((256 ^ bytes.length : Nat) : Int) = 256 ^ bytes.length := by push_cast; rfl
  rw [toInt, toNat_cons, Nat.pow_eq, List.length_cons, Nat.pow_succ, pow_succ, ← hwidth]
  simp only [hsign]
  generalize 256 ^ bytes.length = width at *
  -- What stands below the first byte is too small to change the sign.
  split_ifs with h
  · have hlow : byte.toNat * width ≤ 127 * width := Nat.mul_le_mul_right _ (by omega)
    rw [sub_zero]
    exact Int.bmod_eq_of_le (by omega) (by omega)
  · have hhigh : 128 * width ≤ byte.toNat * width := Nat.mul_le_mul_right _ (by omega)
    have hbelow : byte.toNat * width ≤ 255 * width := Nat.mul_le_mul_right _ (by omega)
    rw [← Int.sub_bmod_right]
    exact Int.bmod_eq_of_le (by push_cast; omega) (by push_cast; omega)

/-- How a byte counts with its sign. -/
theorem bmod_toNat (byte : UInt8) :
    Int.bmod byte.toNat 256 = byte.toNat - if byte < 0x80 then 0 else 256 := by
  have hsingle := toInt_eq_toNat_sub byte []
  rwa [toInt, toNat_cons, List.length_singleton, Nat.pow_eq, Nat.pow_one, pow_one, List.length_nil,
    Nat.pow_zero, Nat.mul_one] at hsingle

/-- Only the first byte carries a sign: it counts as a signed byte, and the others count as they
stand. -/
theorem toInt_cons (byte : UInt8) (bytes : Bytes) :
    toInt (byte :: bytes)
      = Int.bmod byte.toNat 256 * 256 ^ bytes.length + bytes.toNat := by
  rw [toInt_eq_toNat_sub, bmod_toNat, toNat_cons, List.length_cons, pow_succ]
  push_cast
  split_ifs <;> ring

/-- Bytes stand for a negative number exactly if their first bit is set. -/
theorem toInt_cons_lt_zero_iff (byte : UInt8) (bytes : Bytes) :
    toInt (byte :: bytes) < 0 ↔ 0x80 ≤ byte := by
  have hroom := toNat_lt (byte :: bytes)
  rw [toInt_eq_toNat_sub, ← UInt8.not_lt]
  split_ifs with h
  · rw [sub_zero]
    exact iff_of_false (by omega) (not_not.mpr h)
  · have hnegative : (toNat (byte :: bytes) : Int) < 256 ^ (byte :: bytes).length := by
      exact_mod_cast hroom
    exact iff_of_true (by omega) h

/-- The sign matters only up to the room that the width has. -/
theorem toInt_emod (bytes : Bytes) : bytes.toInt % (256 ^ bytes.length : Nat) = bytes.toNat := by
  rw [toInt, Nat.pow_eq, Int.bmod_emod]
  exact Int.emod_eq_of_lt (by omega) (by exact_mod_cast toNat_lt bytes)

/-- Bytes of one length are told by the signed number that they are read as. -/
theorem eq_of_toInt_eq {bytes other : Bytes} (hlength : bytes.length = other.length)
    (h : bytes.toInt = other.toInt) : bytes = other := by
  have hmod := toInt_emod bytes
  rw [h, hlength, toInt_emod] at hmod
  exact eq_of_toNat_eq hlength (by omega)

/-- A signed number is read back from its bytes as far as the width has room for it. -/
theorem toInt_bigEndian (width n : Nat) :
    toInt (bigEndian width n) = Int.bmod n (256 ^ width) := by
  rw [toInt, toNat_bigEndian, length_bigEndian, Nat.pow_eq, Int.natCast_mod, Int.emod_bmod]

/-- A number in two's complement is read back from as many bytes as it has. -/
theorem toInt_bigEndian_toNat (width : Nat) (value : BitVec (8 * width)) :
    toInt (bigEndian width value.toNat) = value.toInt := by
  rw [toInt_bigEndian, BitVec.toInt_eq_toNat_bmod, Nat.pow_mul]

/-- Bytes are what their signed number is written as in their width. -/
theorem bigEndian_toNat_ofInt {width : Nat} {bytes : Bytes} (hwidth : bytes.length = width) :
    bigEndian width (BitVec.ofInt (8 * width) bytes.toInt).toNat = bytes := by
  subst hwidth
  have hmod : bytes.toInt % (2 ^ (8 * bytes.length) : Nat) = bytes.toNat := by
    rw [Nat.pow_mul]
    exact toInt_emod bytes
  rw [BitVec.toNat_ofInt, hmod, Int.toNat_natCast, bigEndian_toNat]

/-! ### Texts -/

/-- Whether bytes are well-formed UTF-8: the bytes of characters, one after the other. -/
def IsUtf8 (bytes : Bytes) : Prop :=
  ∃ characters : List Char, bytes = characters.flatMap String.utf8EncodeChar

/-- A text is read exactly from its own bytes. -/
theorem toString?_eq_some_iff {bytes : Bytes} {text : String} :
    toString? bytes = some text ↔ bytes = ofString text := by
  constructor
  · intro h
    unfold toString? String.fromUTF8? at h
    split_ifs at h with hvalid
    obtain rfl := Option.some.inj h
    rfl
  · rintro rfl
    exact toString?_ofString text

theorem ofString_ofList (characters : List Char) :
    ofString (String.ofList characters) = characters.flatMap String.utf8EncodeChar := by
  rw [ofString, String.toByteArray_ofList, List.utf8Encode, List.toList_data_toByteArray]

/-- A text is read exactly from well-formed UTF-8. -/
theorem exists_toString?_eq_some_iff {bytes : Bytes} :
    (∃ text, toString? bytes = some text) ↔ bytes.IsUtf8 := by
  simp only [toString?_eq_some_iff, IsUtf8, ← ofString_ofList]
  constructor
  · rintro ⟨text, rfl⟩
    exact ⟨text.toList, by rw [String.ofList_toList]⟩
  · rintro ⟨characters, rfl⟩
    exact ⟨_, rfl⟩

/-- Texts are told by their bytes. -/
theorem ofString_inj {s t : String} (h : ofString s = ofString t) : s = t := by
  have hread := congrArg toString? h
  rwa [toString?_ofString, toString?_ofString, Option.some.injEq] at hread

end CqlWire.Bytes
