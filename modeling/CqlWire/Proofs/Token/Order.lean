import CqlWire.Token
import Mathlib.Data.Finset.Card

/-!
# The order of tokens

Comparing two tokens fails exactly if their schemes differ, and then names both schemes
(`Token.compare_eq_error_iff`).  Inside a scheme it decides a strict total order, `Token.Less`:
hashes are ordered as signed numbers, ring positions as numbers, and keys lexicographically by the
bytes that are held.  The order agrees with equality, so the different tokens of a scheme among any
given ones form exactly one strictly increasing list, and `Token.ordered` is that list
(`Token.eq_ordered_iff`).

`Token.compare_totalOrder` states all of this together, for any tokens.
-/

namespace CqlWire

/-- Byte strings are compared in the lexicographic order of unsigned bytes. -/
theorem Bytes.compare_eq_lt_iff {a b : Bytes} : Ord.compare a b = .lt ↔ a < b := by
  induction a generalizing b with
  | nil =>
    cases b with
    | nil => simp
    | cons y ys => simp [List.compare_nil_cons]
  | cons x xs ih =>
    cases b with
    | nil => simp [List.compare_cons_nil]
    | cons y ys =>
      have hlt : Ord.compare x y = .lt ↔ x < y := Std.compare_eq_lt
      have heq : Ord.compare x y = .eq ↔ x = y := Std.compare_eq_iff_eq
      rw [List.compare_cons_cons, Ordering.then_eq_lt, hlt, heq, ih, List.cons_lt_cons_iff]

namespace Token

variable {a b c : Token}

/-- Whether a token stands before another one of its scheme. -/
inductive Less : Token → Token → Prop
  /-- Hashes are signed numbers. -/
  | hash64 {x y : Int64} (h : x.toInt < y.toInt) : Less (hash64 x) (hash64 y)
  | bigint {x y : Fin ringSize} (h : x.val < y.val) : Less (bigint x) (bigint y)
  /-- Keys are ordered lexicographically, by unsigned bytes. -/
  | raw {x y : KeyToken} (h : x.bytes < y.bytes) : Less (raw x) (raw y)

/-! ### Comparing -/

/-- Tokens of two schemes are not compared, and tokens of one scheme always are. -/
theorem compare_eq_error_iff {error : TokenError} :
    a.compare b = .error error ↔ a.scheme ≠ b.scheme ∧ error = .mismatch a.scheme b.scheme := by
  cases a <;> cases b <;> simp [compare, scheme, eq_comm]

theorem compare_eq_lt_iff : a.compare b = .ok .lt ↔ a.Less b := by
  fun_cases compare a b with
  | case1 x y =>
    rw [Except.ok.injEq, Int.compare_eq_lt]
    exact ⟨.hash64, fun | .hash64 h => h⟩
  | case2 x y =>
    rw [Except.ok.injEq, Nat.compare_eq_lt]
    exact ⟨.bigint, fun | .bigint h => h⟩
  | case3 x y =>
    rw [Except.ok.injEq, Bytes.compare_eq_lt_iff]
    exact ⟨.raw, fun | .raw h => h⟩
  | case4 a b hhash hbigint hraw =>
    refine iff_of_false nofun ?_
    rintro (⟨h⟩ | ⟨h⟩ | ⟨h⟩)
    · exact hhash _ _ rfl rfl
    · exact hbigint _ _ rfl rfl
    · exact hraw _ _ rfl rfl

/-- Only a token itself compares as equal to it. -/
theorem compare_eq_eq_iff : a.compare b = .ok .eq ↔ a = b := by
  fun_cases compare a b with
  | case1 x y => rw [Except.ok.injEq, Int.compare_eq_eq, Int64.toInt_inj, hash64.injEq]
  | case2 x y => rw [Except.ok.injEq, Nat.compare_eq_eq, Fin.val_inj, bigint.injEq]
  | case3 x y =>
    obtain ⟨x, hx⟩ := x
    obtain ⟨y, hy⟩ := y
    rw [Except.ok.injEq, Std.compare_eq_iff_eq, raw.injEq, KeyToken.mk.injEq]
  | case4 a b hhash hbigint hraw =>
    refine iff_of_false nofun ?_
    rintro rfl
    cases a with
    | hash64 x => exact hhash _ _ rfl rfl
    | bigint x => exact hbigint _ _ rfl rfl
    | raw x => exact hraw _ _ rfl rfl

/-- Comparing the other way round gives the reverse answer. -/
theorem compare_swap {ordering : Ordering} :
    a.compare b = .ok ordering → b.compare a = .ok ordering.swap := by
  fun_cases compare a b with
  | case1 x y =>
    rintro ⟨⟩
    rw [compare, ← Std.OrientedCmp.eq_swap]
  | case2 x y =>
    rintro ⟨⟩
    rw [compare, ← Std.OrientedCmp.eq_swap]
  | case3 x y =>
    rintro ⟨⟩
    rw [compare, ← Std.OrientedCmp.eq_swap]
  | case4 a b hhash hbigint hraw => exact nofun

theorem compare_eq_gt_iff : a.compare b = .ok .gt ↔ b.Less a :=
  ⟨fun h => compare_eq_lt_iff.mp (compare_swap h), fun h => compare_swap (compare_eq_lt_iff.mpr h)⟩

/-! ### A strict total order -/

theorem Less.irrefl (a : Token) : ¬ a.Less a := by
  intro h
  have heq : a.compare a = .ok .eq := compare_eq_eq_iff.mpr rfl
  rw [compare_eq_lt_iff.mpr h] at heq
  exact nomatch heq

theorem Less.trans (hab : a.Less b) (hbc : b.Less c) : a.Less c := by
  cases hab with
  | hash64 hxy => cases hbc with | hash64 hyz => exact .hash64 (Int.lt_trans hxy hyz)
  | bigint hxy => cases hbc with | bigint hyz => exact .bigint (Nat.lt_trans hxy hyz)
  | raw hxy => cases hbc with | raw hyz => exact .raw (List.lt_trans hxy hyz)

/-- Of two tokens of one scheme, one stands before the other, unless they are the same. -/
theorem less_or_eq_or_less (h : a.scheme = b.scheme) : a.Less b ∨ a = b ∨ b.Less a := by
  cases hcompare : a.compare b with
  | error error => exact absurd h (compare_eq_error_iff.mp hcompare).1
  | ok ordering =>
    cases ordering with
    | lt => exact .inl (compare_eq_lt_iff.mp hcompare)
    | eq => exact .inr (.inl (compare_eq_eq_iff.mp hcompare))
    | gt => exact .inr (.inr (compare_eq_gt_iff.mp hcompare))

/-- Steps that do not go down together go down nowhere, and go up if one of them does. -/
theorem compare_trans {first second : Ordering} (hab : a.compare b = .ok first)
    (hbc : b.compare c = .ok second) (hfirst : first ≠ .gt) (hsecond : second ≠ .gt) :
    a.compare c = .ok (first.then second) := by
  cases first with
  | gt => exact absurd rfl hfirst
  | eq =>
    obtain rfl := compare_eq_eq_iff.mp hab
    exact hbc
  | lt =>
    have hless := compare_eq_lt_iff.mp hab
    cases second with
    | gt => exact absurd rfl hsecond
    | eq =>
      obtain rfl := compare_eq_eq_iff.mp hbc
      exact hab
    | lt => exact compare_eq_lt_iff.mpr (hless.trans (compare_eq_lt_iff.mp hbc))

/-! ### Strictly increasing lists -/

/-- Whether a list holds the given tokens in strictly increasing order. -/
structure Orders (tokens sorted : List Token) : Prop where
  increasing : sorted.Pairwise Less
  mem_iff : ∀ token, token ∈ sorted ↔ token ∈ tokens

theorem Orders.nodup {tokens sorted : List Token} (h : Orders tokens sorted) : sorted.Nodup := by
  refine h.increasing.imp ?_
  rintro a _ hless rfl
  exact Less.irrefl a hless

/-- There is only one strictly increasing list of the same tokens. -/
theorem Orders.unique {tokens left right : List Token} (hl : Orders tokens left)
    (hr : Orders tokens right) : left = right := by
  have hperm : left.Perm right := by
    rw [List.perm_ext_iff_of_nodup hl.nodup hr.nodup]
    exact fun token => (hl.mem_iff token).trans (hr.mem_iff token).symm
  refine hperm.eq_of_pairwise (fun a b _ _ hab hba => ?_) hl.increasing hr.increasing
  exact absurd (hab.trans hba) (Less.irrefl a)

theorem mem_insertOrdered {token : Token} {sorted : List Token} :
    a ∈ insertOrdered token sorted ↔ a = token ∨ a ∈ sorted := by
  fun_induction insertOrdered token sorted with
  | case1 => simp
  | case2 head tail hlt => simp
  | case3 head tail heq =>
    -- The token is there already.
    rw [compare_eq_eq_iff.mp heq]
    simp
  | case4 head tail hlt heq ih =>
    rw [List.mem_cons, ih, List.mem_cons]
    exact or_left_comm

theorem pairwise_insertOrdered {token : Token} {sorted : List Token}
    (hscheme : ∀ a ∈ sorted, a.scheme = token.scheme) (hsorted : sorted.Pairwise Less) :
    (insertOrdered token sorted).Pairwise Less := by
  fun_induction insertOrdered token sorted with
  | case1 => exact List.pairwise_singleton _ _
  | case2 head tail hlt =>
    have hless : token.Less head := compare_eq_lt_iff.mp hlt
    refine List.pairwise_cons.mpr ⟨?_, hsorted⟩
    intro a ha
    rcases List.mem_cons.mp ha with rfl | ha
    · exact hless
    · exact hless.trans (List.rel_of_pairwise_cons hsorted ha)
  | case3 head tail heq => exact hsorted
  | case4 head tail hlt heq ih =>
    obtain ⟨hhead, htail⟩ := List.forall_mem_cons.mp hscheme
    -- The token is neither before the first one nor equal to it, so it stands behind it.
    have hless : head.Less token := by
      rcases less_or_eq_or_less hhead with h | h | h
      · exact h
      · exact absurd (compare_eq_eq_iff.mpr h.symm) heq
      · exact absurd (compare_eq_lt_iff.mpr h) hlt
    refine List.pairwise_cons.mpr ⟨?_, ih htail hsorted.of_cons⟩
    intro a ha
    rcases mem_insertOrdered.mp ha with rfl | ha
    · exact hless
    · exact List.rel_of_pairwise_cons hsorted ha

/-- Tokens that are inserted one after the other end up in order with those from before. -/
theorem orders_foldl_insertOrdered {scheme : TokenScheme} {seen tokens sorted : List Token}
    (hscheme : ∀ token ∈ seen ++ tokens, token.scheme = scheme) (h : Orders seen sorted) :
    Orders (seen ++ tokens)
      (tokens.foldl (fun sorted token => insertOrdered token sorted) sorted) := by
  induction tokens generalizing seen sorted with
  | nil => rwa [List.append_nil]
  | cons token tokens ih =>
    have hinsert : Orders (seen ++ [token]) (insertOrdered token sorted) := by
      constructor
      · refine pairwise_insertOrdered (fun a ha => ?_) h.increasing
        have hseen : a ∈ seen := (h.mem_iff a).mp ha
        rw [hscheme a (List.mem_append_left _ hseen), hscheme token (by simp)]
      · intro a
        rw [mem_insertOrdered, h.mem_iff, List.mem_append, List.mem_singleton, or_comm]
    have happend : seen ++ token :: tokens = (seen ++ [token]) ++ tokens := by simp
    rw [List.foldl_cons, happend]
    rw [happend] at hscheme
    exact ih hscheme hinsert

theorem orders_ordered (scheme : TokenScheme) (tokens : List Token) :
    Orders (tokens.filter fun token => token.scheme = scheme) (ordered scheme tokens) := by
  have hnil : Orders [] [] := ⟨List.Pairwise.nil, fun _ => Iff.rfl⟩
  have hscheme : ∀ token ∈ [] ++ tokens.filter (fun token => token.scheme = scheme),
      token.scheme = scheme := fun token htoken => by simpa using List.of_mem_filter htoken
  exact orders_foldl_insertOrdered hscheme hnil

theorem mem_ordered {scheme : TokenScheme} {tokens : List Token} :
    a ∈ ordered scheme tokens ↔ a ∈ tokens ∧ a.scheme = scheme := by
  rw [(orders_ordered scheme tokens).mem_iff, List.mem_filter, decide_eq_true_eq]

/-- The ordered tokens of a scheme are the only strictly increasing list of them. -/
theorem eq_ordered_iff {scheme : TokenScheme} {tokens sorted : List Token} :
    sorted = ordered scheme tokens ↔
      sorted.Pairwise Less ∧ ∀ token, token ∈ sorted ↔ token ∈ tokens ∧ token.scheme = scheme := by
  constructor
  · rintro rfl
    exact ⟨(orders_ordered scheme tokens).increasing, fun _ => mem_ordered⟩
  · rintro ⟨hincreasing, hmem⟩
    refine Orders.unique ⟨hincreasing, fun token => ?_⟩ (orders_ordered scheme tokens)
    rw [hmem, List.mem_filter, decide_eq_true_eq]

/-! ### Counting -/

/-- Each token is in the ordered list of its own scheme, and in no other. -/
theorem length_ordered_add (tokens : List Token) :
    (ordered .hash64 tokens).length + (ordered .bigint tokens).length
      + (ordered .raw tokens).length = tokens.toFinset.card := by
  have hnodup (scheme : TokenScheme) : (ordered scheme tokens).Nodup :=
    (orders_ordered scheme tokens).nodup
  have hdisjoint {left right : TokenScheme} (hne : left ≠ right) :
      (ordered left tokens).Disjoint (ordered right tokens) := fun token hl hr =>
    hne ((mem_ordered.mp hl).2.symm.trans (mem_ordered.mp hr).2)
  have hall : (ordered .hash64 tokens ++ ordered .bigint tokens ++ ordered .raw tokens).Nodup := by
    refine ((hnodup _).append (hnodup _) (hdisjoint (by decide))).append (hnodup _) ?_
    exact List.disjoint_append_left.mpr ⟨hdisjoint (by decide), hdisjoint (by decide)⟩
  have hsame : (ordered .hash64 tokens ++ ordered .bigint tokens ++ ordered .raw tokens).toFinset
      = tokens.toFinset := by
    ext token
    simp only [List.mem_toFinset, List.mem_append, mem_ordered, ← and_or_left]
    cases token <;> simp [scheme]
  rw [← hsame, List.toFinset_card_of_nodup hall, List.length_append, List.length_append]

theorem nodup_eraseDups (tokens : List Token) : tokens.eraseDups.Nodup := by
  -- What is left after the first token is filtered, so the list gets shorter, but is no tail.
  induction hlength : tokens.length using Nat.strong_induction_on generalizing tokens with
  | _ length ih =>
    cases tokens with
    | nil => exact List.nodup_nil
    | cons token tokens =>
      have hshorter : (tokens.filter fun other => !other == token).length < length := by
        rw [← hlength, List.length_cons]
        exact Nat.lt_succ_of_le (List.length_filter_le _ _)
      rw [List.eraseDups_cons, List.nodup_cons]
      refine ⟨?_, ih _ hshorter _ rfl⟩
      simp

theorem countDistinct_eq_card (tokens : List Token) :
    countDistinct tokens = tokens.toFinset.card := by
  have hsame : tokens.eraseDups.toFinset = tokens.toFinset := by
    ext token
    rw [List.mem_toFinset, List.mem_toFinset, List.mem_eraseDups]
  rw [countDistinct, ← hsame, List.toFinset_card_of_nodup (nodup_eraseDups tokens)]

/-! ### The order as a whole -/

/-- **Comparing tokens is a total order inside each scheme, and an error across schemes.**  The
different tokens of each scheme form one strictly increasing list, and the three lists together are
as long as there are different tokens. -/
theorem compare_totalOrder (a b c : Token) (tokens : List Token) :
    (∀ error, a.compare b = .error error ↔
      a.scheme ≠ b.scheme ∧ error = .mismatch a.scheme b.scheme) ∧
    (a.compare b = .ok .lt ↔ a.Less b) ∧
    (a.compare b = .ok .eq ↔ a = b) ∧
    (∀ ordering, a.compare b = .ok ordering ↔ b.compare a = .ok ordering.swap) ∧
    (∀ first second, a.compare b = .ok first → b.compare c = .ok second →
      first ≠ .gt → second ≠ .gt → a.compare c = .ok (first.then second)) ∧
    (∀ scheme sorted, sorted = ordered scheme tokens ↔
      sorted.Pairwise (fun s t => s.compare t = .ok .lt) ∧
        ∀ token, token ∈ sorted ↔ token ∈ tokens ∧ token.scheme = scheme) ∧
    (ordered .hash64 tokens).length + (ordered .bigint tokens).length
        + (ordered .raw tokens).length = tokens.toFinset.card ∧
    countDistinct tokens = tokens.toFinset.card := by
  refine ⟨fun _ => compare_eq_error_iff, compare_eq_lt_iff, compare_eq_eq_iff, fun ordering => ?_,
    fun _ _ => compare_trans, fun scheme sorted => ?_, length_ordered_add tokens,
    countDistinct_eq_card tokens⟩
  · refine ⟨compare_swap, fun h => ?_⟩
    rw [← ordering.swap_swap]
    exact compare_swap h
  · simp only [compare_eq_lt_iff]
    exact eq_ordered_iff

/-- Two keys that differ in a zero at their end only are one token, below any token that goes on
after them, and the greatest position of the numeric ring stands apart from them. -/
theorem compare_totalOrder_of_trailing_zero :
    let tokens :=
      [hash64 (-1), ofKey [5, 0], bigint ⟨Nat.pow 2 127 - 1, by decide⟩, ofKey [5], hash64 0]
    (ofKey [5]).compare (ofKey [5, 1]) = .ok .lt ∧
      (ofKey [5, 1]).compare (ofKey [5, 1, 0]) = .ok .eq ∧
      (ofKey [5]).compare (ofKey [5, 1, 0]) = .ok .lt ∧
      ordered .hash64 tokens = [hash64 (-1), hash64 0] ∧ tokens.toFinset.card = 4 := by
  intro tokens
  have hlt : (ofKey [5]).compare (ofKey [5, 1]) = .ok .lt := by decide
  have heq : (ofKey [5, 1]).compare (ofKey [5, 1, 0]) = .ok .eq := by decide
  obtain ⟨-, -, -, -, htrans, -, hcount, -⟩ :=
    compare_totalOrder (ofKey [5]) (ofKey [5, 1]) (ofKey [5, 1, 0]) tokens
  refine ⟨hlt, heq, htrans .lt .eq hlt heq nofun nofun, by decide, ?_⟩
  rw [← hcount]
  decide

end Token

end CqlWire
