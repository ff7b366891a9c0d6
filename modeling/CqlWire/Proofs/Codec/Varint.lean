import CqlWire.Codec.Basic
import CqlWire.Proofs.Bytes

/-!
# The forms of a number

Numbers of variable width are written in two's complement, without the leading bytes that only
repeat the sign.  A byte in front of a number repeats its sign exactly if it is the sign byte of the
number (`repeatsSign_iff`), and sign bytes do not count (`toInt_replicate_append`).  Two forms of
one number differ in such bytes alone (`eq_replicate_append`), so that dropping all of them leaves
the shortest form (`isShortestForm_dropSignBytes`).

`forms_of_number` puts this together: what is written is the one shortest form of a number, all
other forms have sign bytes in front of it, and bytes are read as the signed number that they stand
for.
-/

namespace CqlWire

namespace Varint

/-! ### Sign bytes -/

/-- The byte that can stand in front of a number without changing it. -/
def signByte (number : Int) : UInt8 := if number < 0 then 0xFF else 0x00

/-- Only the sign byte of a number repeats its sign. -/
theorem repeatsSign_iff (first second : UInt8) (rest : Bytes) :
    repeatsSign first second ↔ first = signByte (Bytes.toInt (second :: rest)) := by
  have hsign := Bytes.toInt_cons_lt_zero_iff second rest
  unfold signByte
  by_cases h : 0x80 ≤ second
  · rw [if_pos (hsign.mpr h)]
    simp [repeatsSign, h]
  · rw [if_neg (mt hsign.mp h)]
    simp [repeatsSign, h, UInt8.not_le.mp h]

/-- A number is the same behind its sign byte. -/
theorem toInt_signByte_cons {bytes : Bytes} (hne : bytes ≠ []) :
    Bytes.toInt (signByte bytes.toInt :: bytes) = bytes.toInt := by
  cases bytes with
  | nil => exact absurd rfl hne
  | cons byte rest =>
    have hsign := Bytes.toInt_cons_lt_zero_iff byte rest
    have hnegative : Int.bmod (0xFF : UInt8).toNat 256 = -1 := by decide
    have hpositive : Int.bmod (0x00 : UInt8).toNat 256 = 0 := by decide
    unfold signByte
    by_cases h : 0x80 ≤ byte
    · rw [if_pos (hsign.mpr h), Bytes.toInt_cons, hnegative, Bytes.toInt_eq_toNat_sub,
        if_neg (UInt8.not_lt.mpr h)]
      ring
    · rw [if_neg (mt hsign.mp h), Bytes.toInt_cons, hpositive, Bytes.toInt_eq_toNat_sub,
        if_pos (UInt8.not_le.mp h)]
      ring

/-- Any number of sign bytes does not count. -/
theorem toInt_replicate_append {bytes : Bytes} (hne : bytes ≠ []) (n : Nat) :
    Bytes.toInt (List.replicate n (signByte bytes.toInt) ++ bytes) = bytes.toInt := by
  induction n with
  | zero => rfl
  | succ n ih =>
    have hne' : List.replicate n (signByte bytes.toInt) ++ bytes ≠ [] :=
      List.append_ne_nil_of_right_ne_nil _ hne
    have hfirst := toInt_signByte_cons hne'
    rwa [ih] at hfirst

/-- The longer one of two forms of a number is the shorter one behind sign bytes. -/
theorem eq_replicate_append {form bytes : Bytes} (hne : form ≠ [])
    (hnumber : bytes.toInt = form.toInt) (hlength : form.length ≤ bytes.length) :
    bytes = List.replicate (bytes.length - form.length) (signByte form.toInt) ++ form := by
  refine Bytes.eq_of_toInt_eq ?_ ?_
  · rw [List.length_append, List.length_replicate]
    omega
  · rw [toInt_replicate_append hne, hnumber]

/-! ### The shortest form -/

/-- A form of a number that is as short as any. -/
structure IsShortestForm (form : Bytes) (number : Int) : Prop where
  ne_nil : form ≠ []
  toInt_eq : form.toInt = number
  length_le : ∀ other : Bytes, other ≠ [] → other.toInt = number → form.length ≤ other.length

/-- Every form of a number is the shortest one behind sign bytes. -/
theorem IsShortestForm.exists_eq_replicate_append {form bytes : Bytes} {number : Int}
    (h : IsShortestForm form number) (hne : bytes ≠ []) (hnumber : bytes.toInt = number) :
    ∃ n, bytes = List.replicate n (signByte number) ++ form := by
  have hforms := eq_replicate_append h.ne_nil (hnumber.trans h.toInt_eq.symm)
    (h.length_le bytes hne hnumber)
  rw [h.toInt_eq] at hforms
  exact ⟨_, hforms⟩

/-- A form that does not start with a byte that repeats its sign is the shortest one. -/
theorem isShortestForm_of_not_repeatsSign {first second : UInt8} {rest : Bytes}
    (h : ¬ repeatsSign first second) :
    IsShortestForm (first :: second :: rest) (Bytes.toInt (first :: second :: rest)) := by
  refine ⟨List.cons_ne_nil _ _, rfl, fun other hne hnumber => ?_⟩
  by_contra hshorter
  -- A shorter form would stand behind sign bytes, of which the first one is the first byte.
  have hforms := eq_replicate_append hne hnumber.symm (by omega)
  obtain ⟨n, hn⟩ : ∃ n, (first :: second :: rest).length - other.length = n + 1 :=
    Nat.exists_eq_add_one.mpr (by omega)
  rw [hn, List.replicate_succ, List.cons_append] at hforms
  obtain ⟨hfirst, hrest⟩ := List.cons.inj hforms
  have hsame : Bytes.toInt (second :: rest) = other.toInt := by
    rw [hrest, toInt_replicate_append hne]
  rw [← hsame] at hfirst
  exact h ((repeatsSign_iff first second rest).mpr hfirst)

theorem isShortestForm_singleton (byte : UInt8) : IsShortestForm [byte] (Bytes.toInt [byte]) :=
  ⟨List.cons_ne_nil _ _, rfl, fun _ hne _ => List.length_pos_iff.mpr hne⟩

/-- A byte that repeats the sign of the next one does not count. -/
theorem toInt_cons_of_repeatsSign {first second : UInt8} {rest : Bytes}
    (h : repeatsSign first second) :
    Bytes.toInt (first :: second :: rest) = Bytes.toInt (second :: rest) := by
  rw [(repeatsSign_iff first second rest).mp h, toInt_signByte_cons (List.cons_ne_nil _ _)]

/-- Without the bytes that repeat the sign, the shortest form is left. -/
theorem isShortestForm_dropSignBytes {bytes : Bytes} (hne : bytes ≠ []) :
    IsShortestForm (dropSignBytes bytes) bytes.toInt := by
  fun_induction dropSignBytes bytes with
  | case1 first second rest h ih =>
    rw [toInt_cons_of_repeatsSign h]
    exact ih (List.cons_ne_nil _ _)
  | case2 first second rest h => exact isShortestForm_of_not_repeatsSign h
  | case3 bytes hshort =>
    match bytes, hne, hshort with
    | [byte], _, _ => exact isShortestForm_singleton byte
    | first :: second :: rest, _, hshort => exact absurd rfl (hshort first second rest)

/-! ### Writing -/

theorem toInt_bigEndian_toNat (value : Int128) :
    Bytes.toInt (Bytes.bigEndian 16 value.toNat) = value.toInt :=
  Bytes.toInt_bigEndian_toNat 16 value

theorem bigEndian_ne_nil (value : Int128) : Bytes.bigEndian 16 value.toNat ≠ [] :=
  List.cons_ne_nil _ _

/-- What is written is the shortest form of the number. -/
theorem isShortestForm_encode (value : Int128) : IsShortestForm (encode value) value.toInt := by
  have hshortest := isShortestForm_dropSignBytes (bigEndian_ne_nil value)
  rwa [toInt_bigEndian_toNat] at hshortest

theorem encode_ne_nil (value : Int128) : encode value ≠ [] :=
  (isShortestForm_encode value).ne_nil

/-- No number takes more bytes than are read, since it has a form of this length. -/
theorem length_encode_le (value : Int128) : (encode value).length ≤ maxLength := by
  have hle := (isShortestForm_encode value).length_le _ (bigEndian_ne_nil value)
    (toInt_bigEndian_toNat value)
  rwa [Bytes.length_bigEndian] at hle

/-! ### Reading -/

/-- Bytes that are not too many are read as the number that they stand for. -/
theorem toInt_decode {bytes : Bytes} (h : bytes.length ≤ maxLength) :
    (decode bytes).toInt = bytes.toInt := by
  have hroom : 256 ^ bytes.length ≤ 2 ^ 128 := Nat.pow_le_pow_right (n := 256) (by decide) h
  have hpos : 0 < 256 ^ bytes.length := Nat.pow_pos (by decide)
  have hlow := Int.le_bmod (x := bytes.toNat) hpos
  have hhigh := Int.bmod_lt (x := bytes.toNat) hpos
  rw [decode, BitVec.toInt_ofInt, Bytes.toInt, Nat.pow_eq]
  generalize 256 ^ bytes.length = width at *
  exact Int.bmod_eq_of_le (by omega) (by omega)

theorem decode_encode (value : Int128) : decode (encode value) = value := by
  refine BitVec.eq_of_toInt_eq ?_
  rw [toInt_decode (length_encode_le value), (isShortestForm_encode value).toInt_eq]

end Varint

namespace Codec

variable {bytes : Bytes}

/-- Bytes are refused if there are none, or more than a number can have. -/
theorem decode_varint_eq_error_iff {error : CodecError} :
    varint.decode bytes = .error error ↔
      bytes = [] ∧ error = .invalidLength 1 0 ∨
      16 < bytes.length ∧ error = .overflow bytes.length := by
  rw [decode]
  cases bytes with
  | nil => simp [eq_comm]
  | cons byte rest =>
    rw [if_neg (by simp)]
    by_cases hlong : 16 < (byte :: rest).length
    · rw [if_pos hlong]
      simp only [hlong, reduceCtorEq, false_and, true_and, false_or, Except.error.injEq, eq_comm]
    · rw [if_neg hlong]
      simp only [hlong, reduceCtorEq, false_and, or_false]

/-- All other bytes are read as the number that they stand for. -/
theorem decode_varint (hne : bytes ≠ []) (hlength : bytes.length ≤ 16) :
    varint.decode bytes = .ok (.varint (Varint.decode bytes)) := by
  rw [decode, if_neg (mt List.isEmpty_iff.mp hne), if_neg (Nat.not_lt.mpr hlength)]

theorem decode_varint_eq_ok_iff {value : Value} :
    varint.decode bytes = .ok value ↔
      bytes ≠ [] ∧ bytes.length ≤ 16 ∧
        ∃ number : Int128, number.toInt = bytes.toInt ∧ value = .varint number := by
  constructor
  · intro h
    have hread {error : CodecError} : varint.decode bytes ≠ .error error := by
      rw [h]
      exact nofun
    have hne : bytes ≠ [] := fun hnil => hread (decode_varint_eq_error_iff.mpr (.inl ⟨hnil, rfl⟩))
    have hlength : bytes.length ≤ 16 := Nat.not_lt.mp fun hlong =>
      hread (decode_varint_eq_error_iff.mpr (.inr ⟨hlong, rfl⟩))
    rw [decode_varint hne hlength] at h
    exact ⟨hne, hlength, _, Varint.toInt_decode hlength, (Except.ok.inj h).symm⟩
  · rintro ⟨hne, hlength, number, hnumber, rfl⟩
    rw [← Varint.toInt_decode hlength] at hnumber
    rw [decode_varint hne hlength, BitVec.eq_of_toInt_eq hnumber]

end Codec

namespace Varint

/-- The forms that are read as a number are the one that is written and those with sign bytes in
front of it. -/
theorem decode_eq_ok_iff_exists_replicate {bytes : Bytes} {value : Int128} :
    Codec.varint.decode bytes = .ok (.varint value) ↔
      bytes.length ≤ 16 ∧ ∃ n, bytes = List.replicate n (signByte value.toInt) ++ encode value := by
  have hshortest := isShortestForm_encode value
  rw [Codec.decode_varint_eq_ok_iff]
  constructor
  · rintro ⟨hne, hlength, number, hnumber, heq⟩
    obtain rfl := Value.varint.inj heq
    exact ⟨hlength, hshortest.exists_eq_replicate_append hne hnumber.symm⟩
  · rintro ⟨hlength, n, rfl⟩
    refine ⟨List.append_ne_nil_of_right_ne_nil _ hshortest.ne_nil, hlength, value, ?_, rfl⟩
    have hnumber := toInt_replicate_append hshortest.ne_nil n
    rw [hshortest.toInt_eq] at hnumber
    exact hnumber.symm

/-- **A number has one shortest form, and this is the one that is written.**  It has between one and
sixteen bytes and is read back.  Whatever else is read as the number is longer: it has bytes in
front of the shortest form that are all zero, or all ones if the number is negative.  Bytes are
refused only if there are none of them or more than sixteen, and are otherwise read as the number
without a sign, less the room of their width if the first bit is set. -/
theorem forms_of_number :
    (∀ value : Int128,
      1 ≤ (encode value).length ∧ (encode value).length ≤ 16 ∧
      Codec.varint.decode (encode value) = .ok (.varint value) ∧
      ∀ bytes,
        (Codec.varint.decode bytes = .ok (.varint value) ↔
          bytes.length ≤ 16 ∧
            ∃ n, bytes = List.replicate n (if value.toInt < 0 then 0xFF else 0x00)
              ++ encode value) ∧
        (Codec.varint.decode bytes = .ok (.varint value) → bytes ≠ encode value →
          (encode value).length < bytes.length)) ∧
    ∀ bytes : Bytes,
      (∀ error, Codec.varint.decode bytes = .error error ↔
        bytes = [] ∧ error = .invalidLength 1 0 ∨
        16 < bytes.length ∧ error = .overflow bytes.length) ∧
      (bytes ≠ [] → bytes.length ≤ 16 →
        ∃ number : Int128, Codec.varint.decode bytes = .ok (.varint number) ∧
          number.toInt
            = bytes.toNat - if bytes.headD 0 < 0x80 then 0 else 256 ^ bytes.length) := by
  refine ⟨fun value => ⟨?_, length_encode_le value, ?_, fun bytes => ⟨?_, ?_⟩⟩, fun bytes =>
    ⟨fun error => Codec.decode_varint_eq_error_iff, fun hne hlength => ?_⟩⟩
  · exact List.length_pos_iff.mpr (encode_ne_nil value)
  · rw [Codec.decode_varint (encode_ne_nil value) (length_encode_le value), decode_encode]
  · exact decode_eq_ok_iff_exists_replicate
  · intro hread hother
    obtain ⟨-, n, rfl⟩ := decode_eq_ok_iff_exists_replicate.mp hread
    -- Without sign bytes this would be the shortest form itself.
    have hpos : n ≠ 0 := by
      rintro rfl
      exact hother rfl
    rw [List.length_append, List.length_replicate]
    omega
  · refine ⟨_, Codec.decode_varint hne hlength, ?_⟩
    rw [toInt_decode hlength]
    cases bytes with
    | nil => exact absurd rfl hne
    | cons byte rest => exact Bytes.toInt_eq_toNat_sub byte rest

/-- The least number of a single byte has a longer form, with a sign byte in front of it. -/
theorem forms_of_number_of_sign_byte :
    encode (-128) = [0x80] ∧ Codec.varint.decode [0xFF, 0x80] = .ok (.varint (-128)) ∧
      (encode (-128)).length < 2 ∧
      ∃ number : Int128, Codec.varint.decode [0xFF, 0x80] = .ok (.varint number) ∧
        number.toInt = 0xFF80 - 256 ^ 2 := by
  have hform : encode (-128) = [0x80] := by decide
  obtain ⟨-, -, -, hforms⟩ := forms_of_number.1 (-128)
  have hread : Codec.varint.decode [0xFF, 0x80] = .ok (.varint (-128)) :=
    (hforms _).1.mpr ⟨by decide, 1, by decide⟩
  exact ⟨hform, hread, (hforms _).2 hread (by rw [hform]; decide),
    (forms_of_number.2 [0xFF, 0x80]).2 (by decide) (by decide)⟩

end Varint

end CqlWire
