import CqlWire.Proofs.Token.Order
import Mathlib.Data.List.DropRight

/-!
# Zeros at the end of a key

A key token holds its key without the zeros at the end, but for the first byte.  What it holds is
the shortest start of the key that zeros lead back to the key (`KeyToken.isShortestStart_iff`).
Tokens of keys are therefore compared as the keys would be if the shorter one went on with zeros
(`KeyToken.compare_shorten`), and keys in order have tokens in order
(`KeyToken.compare_shorten_ne_gt`).  Only the empty key does not count as zeros: its token is below
all others.

`Token.compare_ofKey_padded` puts this together.
-/

namespace CqlWire

namespace Bytes

variable {a b : Bytes} {byte : UInt8} {m n : Nat}

/-! ### Zeros behind byte strings -/

/-- The order of two byte strings, as if the shorter one went on with zeros. -/
def comparePadded (a b : Bytes) : Ordering :=
  let width := max a.length b.length
  Ord.compare (a.rightpad width 0) (b.rightpad width 0)

/-- Whether the last byte is not a zero, if there is one. -/
def EndsNonzero (bytes : Bytes) : Prop :=
  bytes.getLast? ≠ some 0

theorem EndsNonzero.of_cons (h : EndsNonzero (byte :: b)) : EndsNonzero b := by
  cases b with
  | nil => exact nofun
  | cons next rest => rwa [EndsNonzero, List.getLast?_cons_cons] at h

/-- Nothing stands before zeros only. -/
theorem compare_replicate_ne_gt (hlength : n = b.length) :
    Ord.compare (List.replicate n 0) b ≠ .gt := by
  subst hlength
  induction b with
  | nil => exact nofun
  | cons byte b ih =>
    rw [List.length_cons, List.replicate_succ, List.compare_cons_cons]
    cases hfirst : Ord.compare 0 byte with
    | lt => exact nofun
    | eq => exact ih
    | gt => exact absurd (Std.compare_eq_gt.mp hfirst) (UInt8.not_lt.mpr UInt8.zero_le)

/-- Bytes that do not end in a zero stand behind zeros only. -/
theorem compare_replicate_append (hne : b ≠ []) (hends : EndsNonzero b)
    (hlength : m = b.length + n) :
    Ord.compare (List.replicate m 0) (b ++ List.replicate n 0) = .lt := by
  induction b generalizing m with
  | nil => exact absurd rfl hne
  | cons byte b ih =>
    rw [List.length_cons, Nat.add_right_comm] at hlength
    rw [hlength, List.replicate_succ, List.cons_append, List.compare_cons_cons]
    by_cases hzero : byte = 0
    · subst hzero
      -- A zero is not the last byte, so that there is another one.
      have hrest : b ≠ [] := by
        rintro rfl
        exact hends rfl
      exact ih hrest hends.of_cons rfl
    · have hfirst : Ord.compare 0 byte = .lt :=
        Std.compare_eq_lt.mpr (UInt8.pos_iff_ne_zero.mpr hzero)
      rw [hfirst]
      rfl

/-- Bytes that do not end in a zero are compared as if zeros followed. -/
theorem compare_append_replicate (ha : EndsNonzero a) (hb : EndsNonzero b)
    (hlength : a.length + m = b.length + n) :
    Ord.compare (a ++ List.replicate m 0) (b ++ List.replicate n 0) = Ord.compare a b := by
  induction a generalizing b with
  | nil =>
    rw [List.length_nil, Nat.zero_add] at hlength
    cases b with
    | nil =>
      rw [List.length_nil, Nat.zero_add] at hlength
      rw [hlength, Std.compare_self, Std.compare_self]
    | cons y ys =>
      rw [List.nil_append, compare_replicate_append (List.cons_ne_nil _ _) hb hlength,
        List.compare_nil_cons]
  | cons x xs ih =>
    cases b with
    | nil =>
      rw [List.length_nil, Nat.zero_add] at hlength
      have hbelow := compare_replicate_append (List.cons_ne_nil _ _) ha hlength.symm
      rw [List.nil_append, List.compare_cons_nil]
      exact Std.OrientedCmp.gt_iff_lt.mpr hbelow
    | cons y ys =>
      have hrest : xs.length + m = ys.length + n := by
        rw [List.length_cons, List.length_cons] at hlength
        omega
      rw [List.cons_append, List.cons_append, List.compare_cons_cons, List.compare_cons_cons,
        ih ha.of_cons hb.of_cons hrest]

/-- Zeros that fill up byte strings to one length do not turn their order around. -/
theorem compare_append_replicate_ne_gt (h : Ord.compare a b ≠ .gt)
    (hlength : a.length + m = b.length + n) :
    Ord.compare (a ++ List.replicate m 0) (b ++ List.replicate n 0) ≠ .gt := by
  induction a generalizing b with
  | nil =>
    refine compare_replicate_ne_gt ?_
    rw [List.length_append, List.length_replicate, ← hlength, List.length_nil, Nat.zero_add]
  | cons x xs ih =>
    cases b with
    | nil => exact absurd (List.compare_cons_nil) h
    | cons y ys =>
      rw [List.length_cons, List.length_cons] at hlength
      rw [List.compare_cons_cons] at h
      rw [List.cons_append, List.cons_append, List.compare_cons_cons]
      cases hfirst : Ord.compare x y with
      | lt => exact nofun
      | eq =>
        rw [hfirst] at h
        exact ih h (by omega)
      | gt =>
        rw [hfirst] at h
        exact absurd rfl h

end Bytes

/-! ### Shortened keys -/

namespace KeyToken

open Bytes (EndsNonzero comparePadded)

variable {a b key start : Bytes} {m n width : Nat}

theorem endsNonzero_dropTrailingZeros (bytes : Bytes) :
    EndsNonzero (dropTrailingZeros bytes) := by
  intro hlast
  have hne : dropTrailingZeros bytes ≠ [] := by
    rintro hnil
    rw [hnil] at hlast
    exact nomatch hlast
  rw [List.getLast?_eq_some_getLast hne] at hlast
  exact List.rdropWhile_last_not (· == 0) bytes hne (beq_iff_eq.mpr (Option.some.inj hlast))

/-- What is dropped are zeros. -/
theorem exists_eq_dropTrailingZeros_append (bytes : Bytes) :
    ∃ n, bytes = dropTrailingZeros bytes ++ List.replicate n 0 := by
  refine ⟨(bytes.rtakeWhile (· == 0)).length, ?_⟩
  have hzeros : bytes.rtakeWhile (· == 0)
      = List.replicate (bytes.rtakeWhile (· == 0)).length 0 :=
    List.eq_replicate_iff.mpr ⟨rfl, fun byte hbyte => by
      simpa using List.mem_rtakeWhile_imp hbyte⟩
  rw [← hzeros]
  exact List.rdropWhile_append_rtakeWhile.symm

theorem dropTrailingZeros_append_replicate (bytes : Bytes) (n : Nat) :
    dropTrailingZeros (bytes ++ List.replicate n 0) = dropTrailingZeros bytes := by
  unfold dropTrailingZeros
  rw [List.reverse_append, List.reverse_replicate, List.dropWhile_append_of_pos]
  intro byte hbyte
  rw [List.eq_of_mem_replicate hbyte]
  rfl

/-- A key is what is left of it, with zeros behind. -/
theorem exists_eq_shorten_append (key : Bytes) :
    ∃ n, (shorten key).length + n = key.length ∧ key = shorten key ++ List.replicate n 0 := by
  obtain ⟨n, hkey⟩ : ∃ n, key = shorten key ++ List.replicate n 0 := by
    cases key with
    | nil => exact ⟨0, rfl⟩
    | cons first rest =>
      obtain ⟨n, hrest⟩ := exists_eq_dropTrailingZeros_append rest
      exact ⟨n, congrArg (first :: ·) hrest⟩
  have hlength := congrArg List.length hkey
  rw [List.length_append, List.length_replicate] at hlength
  exact ⟨n, hlength.symm, hkey⟩

/-- Zeros behind a key do not matter. -/
theorem shorten_append_replicate (hne : key ≠ []) (n : Nat) :
    shorten (key ++ List.replicate n 0) = shorten key := by
  cases key with
  | nil => exact absurd rfl hne
  | cons first rest => exact congrArg (first :: ·) (dropTrailingZeros_append_replicate rest n)

theorem length_shorten_le (key : Bytes) : (shorten key).length ≤ key.length := by
  obtain ⟨n, hlength, -⟩ := exists_eq_shorten_append key
  omega

theorem shorten_ne_nil (hne : key ≠ []) : shorten key ≠ [] := by
  cases key with
  | nil => exact absurd rfl hne
  | cons first rest => exact List.cons_ne_nil _ _

/-- Up to a common width, a key and what is left of it go on with zeros alike. -/
theorem exists_rightpad_eq (key : Bytes) (hwidth : key.length ≤ width) :
    ∃ n, (shorten key).length + n = width ∧
      key.rightpad width 0 = shorten key ++ List.replicate n 0 := by
  obtain ⟨n, hlength, hkey⟩ := exists_eq_shorten_append key
  refine ⟨n + (width - key.length), by omega, ?_⟩
  rw [List.rightpad, List.replicate_add, ← List.append_assoc, ← hkey]

/-! ### Order -/

/-- The bytes that are held are compared as the keys are, padded to one length. -/
theorem compare_shorten (ha : a ≠ []) (hb : b ≠ []) :
    Ord.compare (shorten a) (shorten b) = comparePadded a b := by
  obtain ⟨m, hm, hpaddedA⟩ := exists_rightpad_eq a (Nat.le_max_left a.length b.length)
  obtain ⟨n, hn, hpaddedB⟩ := exists_rightpad_eq b (Nat.le_max_right a.length b.length)
  rw [comparePadded, hpaddedA, hpaddedB]
  cases a with
  | nil => exact absurd rfl ha
  | cons x xs =>
    cases b with
    | nil => exact absurd rfl hb
    | cons y ys =>
      -- The first bytes are held whatever they are, and the others do not end in a zero.
      rw [shorten, shorten] at *
      rw [List.length_cons] at hm hn
      rw [List.cons_append, List.cons_append, List.compare_cons_cons, List.compare_cons_cons,
        Bytes.compare_append_replicate (endsNonzero_dropTrailingZeros xs)
          (endsNonzero_dropTrailingZeros ys) (by omega)]

/-- Keys in order have tokens in order. -/
theorem compare_shorten_ne_gt (hle : a ≤ b) :
    Ord.compare (shorten a) (shorten b) ≠ .gt := by
  cases a with
  | nil => cases b <;> exact nofun
  | cons x xs =>
    cases b with
    | nil => exact absurd (List.nil_lt_cons x xs) hle
    | cons y ys =>
      have hcompare : Ord.compare (x :: xs) (y :: ys) ≠ .gt := by
        intro hgt
        rw [Std.OrientedCmp.gt_iff_lt, Bytes.compare_eq_lt_iff] at hgt
        exact hle hgt
      rw [compare_shorten (List.cons_ne_nil _ _) (List.cons_ne_nil _ _)]
      refine Bytes.compare_append_replicate_ne_gt hcompare ?_
      omega

/-- Of two keys of which the same is left, the longer one is the shorter one with zeros behind. -/
theorem exists_eq_append_of_shorten_eq (h : shorten a = shorten b) (hlength : b.length ≤ a.length) :
    ∃ n, a = b ++ List.replicate n 0 := by
  obtain ⟨m, hm, ha⟩ := exists_rightpad_eq a (Nat.le_refl a.length)
  obtain ⟨n, hn, hb⟩ := exists_rightpad_eq b hlength
  obtain rfl : m = n := by
    rw [h] at hm
    omega
  refine ⟨a.length - b.length, ?_⟩
  calc a = a.rightpad a.length 0 := by rw [List.rightpad, Nat.sub_self, List.replicate_zero,
            List.append_nil]
    _ = shorten b ++ List.replicate m 0 := by rw [ha, h]
    _ = b ++ List.replicate (a.length - b.length) 0 := hb.symm

/-- The same is left of two keys exactly if one is the other with zeros behind. -/
theorem shorten_eq_shorten_iff (ha : a ≠ []) (hb : b ≠ []) :
    shorten a = shorten b ↔
      ∃ n, a = b ++ List.replicate n 0 ∨ b = a ++ List.replicate n 0 := by
  constructor
  · intro h
    rcases Nat.le_total b.length a.length with hle | hle
    · obtain ⟨n, hn⟩ := exists_eq_append_of_shorten_eq h hle
      exact ⟨n, .inl hn⟩
    · obtain ⟨n, hn⟩ := exists_eq_append_of_shorten_eq h.symm hle
      exact ⟨n, .inr hn⟩
  · rintro ⟨n, rfl | rfl⟩
    · exact shorten_append_replicate hb n
    · exact (shorten_append_replicate ha n).symm

/-! ### What is held of a key -/

/-- Whether a part of a key is its shortest start, not empty, that zeros lead back to the key. -/
structure IsShortestStart (key start : Bytes) : Prop where
  ne_nil : start ≠ []
  isStart : start <+: key
  rightpad_eq : start.rightpad key.length 0 = key
  length_le : ∀ other : Bytes, other ≠ [] → other <+: key → other.rightpad key.length 0 = key →
    start.length ≤ other.length

/-- What is left of a start from which zeros lead back to the key is left of the key. -/
theorem shorten_eq_of_rightpad_eq (hne : start ≠ []) (h : start.rightpad key.length 0 = key) :
    shorten start = shorten key := by
  rw [← h, List.rightpad, shorten_append_replicate hne]

theorem isShortestStart_shorten (hne : key ≠ []) : IsShortestStart key (shorten key) where
  ne_nil := shorten_ne_nil hne
  isStart := by
    obtain ⟨n, -, hkey⟩ := exists_eq_shorten_append key
    exact ⟨_, hkey.symm⟩
  rightpad_eq := by
    obtain ⟨n, hlength, hkey⟩ := exists_eq_shorten_append key
    rw [List.rightpad, ← hlength, Nat.add_sub_cancel_left, ← hkey]
  length_le other hother _ hpadded := by
    rw [← shorten_eq_of_rightpad_eq hother hpadded]
    exact length_shorten_le other

/-- What is held of a key is its shortest start, of which there is only one. -/
theorem isShortestStart_iff (hne : key ≠ []) : IsShortestStart key start ↔ start = shorten key := by
  constructor
  · intro h
    have hshorten := isShortestStart_shorten hne
    have hlength : start.length = (shorten key).length := Nat.le_antisymm
      (h.length_le _ hshorten.ne_nil hshorten.isStart hshorten.rightpad_eq)
      (hshorten.length_le _ h.ne_nil h.isStart h.rightpad_eq)
    exact (List.prefix_of_prefix_length_le h.isStart hshorten.isStart hlength.le).eq_of_length
      hlength
  · rintro rfl
    exact isShortestStart_shorten hne

end KeyToken

namespace Token

variable {a b : Bytes}

theorem compare_ofKey (a b : Bytes) :
    (ofKey a).compare (ofKey b)
      = .ok (Ord.compare (KeyToken.shorten a) (KeyToken.shorten b)) :=
  rfl

theorem ofKey_eq_iff : ofKey a = ofKey b ↔ KeyToken.shorten a = KeyToken.shorten b := by
  rw [ofKey, ofKey, raw.injEq, KeyToken.ofKey, KeyToken.ofKey, KeyToken.mk.injEq]

/-- **Tokens of keys are compared as the keys are with zeros behind the shorter one.**  So two keys
have the same token exactly if they differ in zeros at the end only.  The empty key does not count
as zeros: its token is below those of all other keys.  Keys in lexicographic order have tokens in
order.  A token holds the shortest start of its key, not empty, that zeros lead back to the key, and
it is the token of what it holds. -/
theorem compare_ofKey_padded (a b : Bytes) :
    (a ≠ [] → b ≠ [] →
      (ofKey a).compare (ofKey b) = .ok (Bytes.comparePadded a b) ∧
      (ofKey a = ofKey b ↔
        ∃ n, a = b ++ List.replicate n 0 ∨ b = a ++ List.replicate n 0)) ∧
    (b ≠ [] → (ofKey []).compare (ofKey b) = .ok .lt) ∧
    (a ≤ b → ∃ ordering, (ofKey a).compare (ofKey b) = .ok ordering ∧ ordering ≠ .gt) ∧
    KeyToken.ofKey (KeyToken.ofKey a).bytes = KeyToken.ofKey a ∧
    (a ≠ [] → ∀ start, KeyToken.IsShortestStart a start ↔ start = (KeyToken.ofKey a).bytes) := by
  refine ⟨fun ha hb => ⟨?_, ?_⟩, fun hb => ?_, fun hle => ?_, ?_, fun ha start => ?_⟩
  · rw [compare_ofKey, KeyToken.compare_shorten ha hb]
  · rw [ofKey_eq_iff, KeyToken.shorten_eq_shorten_iff ha hb]
  · obtain ⟨first, rest, hkey⟩ := List.exists_cons_of_ne_nil (KeyToken.shorten_ne_nil hb)
    rw [compare_ofKey, hkey]
    rfl
  · exact ⟨_, compare_ofKey a b, KeyToken.compare_shorten_ne_gt hle⟩
  · simp only [KeyToken.ofKey, KeyToken.shorten_shorten]
  · exact KeyToken.isShortestStart_iff ha

/-- A key of zeros is a single zero, above the empty key and below a key that goes on with a one;
and keys that are no prefixes of each other keep their order. -/
theorem compare_ofKey_padded_of_zeros :
    (ofKey [0, 0]).compare (ofKey [0, 0, 0, 1]) = .ok .lt ∧
      ofKey [0, 0, 0] = ofKey [0] ∧
      (ofKey []).compare (ofKey [0, 0]) = .ok .lt ∧
      (∃ ordering, (ofKey [1, 0, 0]).compare (ofKey [1, 0x80]) = .ok ordering ∧ ordering ≠ .gt) ∧
      KeyToken.IsShortestStart [1, 0, 2, 0, 0] [1, 0, 2] := by
  obtain ⟨hzeros, -⟩ := compare_ofKey_padded [0, 0] [0, 0, 0, 1]
  obtain ⟨hsame, -⟩ := compare_ofKey_padded [0, 0, 0] [0]
  obtain ⟨-, hempty, -⟩ := compare_ofKey_padded [] [0, 0]
  obtain ⟨-, -, horder, -⟩ := compare_ofKey_padded [1, 0, 0] [1, 0x80]
  obtain ⟨-, -, -, -, hstart⟩ := compare_ofKey_padded [1, 0, 2, 0, 0] []
  have hpadded : Bytes.comparePadded [0, 0] [0, 0, 0, 1] = .lt := by decide
  refine ⟨?_, ?_, hempty (by decide), horder (by decide), ?_⟩
  · rw [(hzeros (by decide) (by decide)).1, hpadded]
  · exact (hsame (by decide) (by decide)).2.mpr ⟨2, .inl (by decide)⟩
  · exact (hstart (by decide) _).mpr (by decide)

end Token

end CqlWire
