import CqlWire.Text.Blank
import Mathlib.Data.List.TakeWhile

/-!
# Removing blank characters

A text is its trimmed part between blank characters (`exists_eq_append_trimmed`), and every part
between blank characters that neither starts nor ends with one is the trimmed part
(`trimmed_eq_of_append`).
-/

namespace CqlWire.Text

variable {p : Char → Bool} {before core after : List Char}

/-! ### Both ends of a list -/

/-- What is removed from the front are characters for which `p` holds. -/
theorem exists_eq_append_dropWhile (p : Char → Bool) (chars : List Char) :
    ∃ before, chars = before ++ chars.dropWhile p ∧ ∀ c ∈ before, p c :=
  ⟨chars.takeWhile p, List.takeWhile_append_dropWhile.symm, fun _ => List.mem_takeWhile_imp⟩

theorem exists_eq_append_stripBoth (p : Char → Bool) (chars : List Char) :
    ∃ before after, chars = before ++ stripBoth p chars ++ after ∧
      (∀ c ∈ before, p c) ∧ ∀ c ∈ after, p c := by
  obtain ⟨before, hbefore, hpbefore⟩ := exists_eq_append_dropWhile p chars
  obtain ⟨after, hafter, hpafter⟩ := exists_eq_append_dropWhile p (chars.dropWhile p).reverse
  refine ⟨before, after.reverse, ?_, hpbefore, fun c hc => hpafter c (List.mem_reverse.mp hc)⟩
  have hrest : chars.dropWhile p = stripBoth p chars ++ after.reverse := by
    rw [stripBoth, ← List.reverse_append, ← hafter, List.reverse_reverse]
  rw [List.append_assoc, ← hrest, ← hbefore]

/-- Nothing is removed from the front of a list that does not start with such a character. -/
theorem dropWhile_append_of_head (hne : core ≠ []) (hhead : p (core.head hne) = false)
    (rest : List Char) : (core ++ rest).dropWhile p = core ++ rest := by
  obtain ⟨c, cs, rfl⟩ := List.exists_cons_of_ne_nil hne
  exact List.dropWhile_cons_of_neg (Bool.eq_false_iff.mp hhead)

theorem stripBoth_append (hbefore : ∀ c ∈ before, p c) (hafter : ∀ c ∈ after, p c)
    (hne : core ≠ []) (hhead : p (core.head hne) = false)
    (hlast : p (core.getLast hne) = false) : stripBoth p (before ++ core ++ after) = core := by
  have hne' : core.reverse ≠ [] := List.reverse_ne_nil_iff.mpr hne
  have hhead' : p (core.reverse.head hne') = false := by rwa [List.head_reverse]
  have hafter' : ∀ c ∈ after.reverse, p c := fun c hc => hafter c (List.mem_reverse.mp hc)
  have hback : core.reverse.dropWhile p = core.reverse := by
    simpa using dropWhile_append_of_head hne' hhead' []
  rw [stripBoth, List.append_assoc, List.dropWhile_append_of_pos hbefore,
    dropWhile_append_of_head hne hhead, List.reverse_append,
    List.dropWhile_append_of_pos hafter', hback, List.reverse_reverse]

/-! ### Texts -/

theorem exists_eq_append_trimmed (text : String) :
    ∃ before after, text.toList = before ++ trimmed text ++ after ∧
      (∀ c ∈ before, isBlank c) ∧ ∀ c ∈ after, isBlank c :=
  exists_eq_append_stripBoth isBlank text.toList

/-- A part between blank characters is the trimmed one if it has no blank characters itself. -/
theorem trimmed_eq_of_append {text : String} (h : text.toList = before ++ core ++ after)
    (hbefore : ∀ c ∈ before, isBlank c) (hafter : ∀ c ∈ after, isBlank c) (hne : core ≠ [])
    (hcore : ∀ c ∈ core, isBlank c = false) : trimmed text = core := by
  rw [trimmed, h]
  exact stripBoth_append hbefore hafter hne (hcore _ (List.head_mem hne))
    (hcore _ (List.getLast_mem hne))

/-- Blank characters are no letters. -/
theorem isBlank_toUpper {c : Char} (h : isBlank c) : isBlank c.toUpper := by
  have hupper : c.toUpper = c := by
    unfold Char.toUpper
    split_ifs with hlower
    · -- The lower case letters are the code points from 97 to 122.
      exfalso
      simp only [UInt32.le_iff_toNat_le] at hlower
      simp only [isBlank, Char.toNat, Bool.or_eq_true, Bool.and_eq_true, decide_eq_true_eq,
        beq_iff_eq] at h
      have hfrom : 97 ≤ c.val.toNat := hlower.1
      have hto : c.val.toNat ≤ 122 := hlower.2
      omega
    · rfl
  rwa [hupper]

end CqlWire.Text
