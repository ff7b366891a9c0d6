import CqlWire.Config.Consistency
import CqlWire.Proofs.Text.Blank

/-!
# Consistency levels by name and by code

A text reads as a level exactly if it spells the level's name, with any blank characters around it
and in any case of the letters (`Consistency.ofName_eq_ok_iff`).  A number reads as a level exactly
if it is the level's code (`Consistency.ofCode_eq_ok_iff`).
-/

namespace CqlWire.Consistency

variable {level : Consistency}

theorem mem_levels (level : Consistency) : level ∈ levels := by
  cases level <;> decide

/-! ### Names -/

/-- Whether a text spells the name of a level: with blank characters around it, and up to the case
of ASCII letters. -/
def IsSpelledBy (level : Consistency) (text : String) : Prop :=
  ∃ before spelling after, text.toList = before ++ spelling ++ after ∧
    (∀ c ∈ before, Text.isBlank c) ∧ (∀ c ∈ after, Text.isBlank c) ∧
    spelling.map Char.toUpper = level.name.toList.map Char.toUpper

theorem map_toUpper_name (level : Consistency) :
    level.name.toList.map Char.toUpper = level.name.toList := by
  cases level <;> decide +kernel

/-- A level is found under its own name. -/
theorem find?_name (level : Consistency) :
    levels.find? (fun other => other.name.toList = level.name.toList) = some level := by
  cases level <;> decide +kernel

theorem toList_name_injective {left right : Consistency}
    (h : left.name.toList = right.name.toList) : left = right := by
  have hleft := left.find?_name
  rw [h, find?_name] at hleft
  exact (Option.some.inj hleft).symm

theorem isBlank_of_mem_name {c : Char} (h : c ∈ level.name.toList) : Text.isBlank c = false := by
  have hall : level.name.toList.all (fun c => !Text.isBlank c) = true := by
    cases level <;> decide +kernel
  simpa using List.all_eq_true.mp hall c h

theorem name_ne_nil (level : Consistency) : level.name.toList ≠ [] := by
  cases level <;> decide +kernel

/-- A text spells a name if what is left of it after trimming does. -/
theorem isSpelledBy_iff {text : String} :
    level.IsSpelledBy text ↔ (Text.trimmed text).map Char.toUpper = level.name.toList := by
  constructor
  · rintro ⟨before, spelling, after, htext, hbefore, hafter, hspelling⟩
    rw [map_toUpper_name] at hspelling
    have hne : spelling ≠ [] := by
      rintro rfl
      exact level.name_ne_nil hspelling.symm
    -- A blank character is no letter, so it would stand in the name as it is.
    have hcore : ∀ c ∈ spelling, Text.isBlank c = false := by
      intro c hc
      by_contra hblank
      have hmem : c.toUpper ∈ level.name.toList := hspelling ▸ List.mem_map_of_mem hc
      have hupper := Text.isBlank_toUpper (eq_true_of_ne_false hblank)
      rw [isBlank_of_mem_name hmem] at hupper
      exact Bool.false_ne_true hupper
    rw [Text.trimmed_eq_of_append htext hbefore hafter hne hcore, hspelling]
  · intro h
    obtain ⟨before, after, htext, hbefore, hafter⟩ := Text.exists_eq_append_trimmed text
    exact ⟨before, Text.trimmed text, after, htext, hbefore, hafter, h.trans
      level.map_toUpper_name.symm⟩

theorem ofName_eq_ok_iff {text : String} :
    ofName text = .ok level ↔ level.IsSpelledBy text := by
  rw [isSpelledBy_iff, ofName]
  cases hfind : levels.find? fun level =>
      level.name.toList = (Text.trimmed text).map Char.toUpper with
  | none =>
    have hall := List.find?_eq_none.mp hfind level level.mem_levels
    simpa [eq_comm] using hall
  | some found =>
    have hname : found.name.toList = (Text.trimmed text).map Char.toUpper := by
      simpa using List.find?_some hfind
    rw [Except.ok.injEq, ← hname]
    exact ⟨fun h => h ▸ rfl, toList_name_injective⟩

/-- A text that spells no level is refused as it was given. -/
theorem ofName_eq_error_iff {text : String} {error : ConfigError} :
    ofName text = .error error ↔
      (∀ level : Consistency, ¬ level.IsSpelledBy text) ∧
        error = .unknownConsistencyName text := by
  cases h : ofName text with
  | ok level =>
    exact iff_of_false nofun fun hnone => hnone.1 level (ofName_eq_ok_iff.mp h)
  | error found =>
    have hnone : ∀ level : Consistency, ¬ level.IsSpelledBy text := by
      intro level hspelled
      rw [ofName_eq_ok_iff.mpr hspelled] at h
      exact nomatch h
    have hfound : found = .unknownConsistencyName text := by
      unfold ofName at h
      dsimp only at h
      split at h
      · exact nomatch h
      · exact (Except.error.inj h).symm
    rw [Except.error.injEq, hfound, eq_comm]
    exact (and_iff_right hnone).symm

/-! ### Codes -/

theorem ofCode_eq_ok_iff {code : UInt16} : ofCode code = .ok level ↔ level.code = code := by
  constructor
  · intro h
    unfold ofCode at h
    split at h
    · next found hfind =>
      rw [← Except.ok.inj h]
      simpa using List.find?_some hfind
    · exact nomatch h
  · rintro rfl
    exact level.ofCode_code

end CqlWire.Consistency
