import CqlWire.Protocol.Version
import CqlWire.Proofs.Text.Blank
import CqlWire.Proofs.Text.Numeral

/-!
# Versions by their number

A text writes the number of a version by a numeral, with any number of letters `v` in front of it
and blank characters around the whole (`WritesNumber`).  It writes one number at most, and it is
read as the version with this number; the text of any other number, and a text that writes none, is
refused as it was given (`parse_eq_ok_iff`, `parse_eq_error_iff`).
-/

namespace CqlWire.ProtocolVersion

open Text (IsNumeral)

variable {text : String} {chars : List Char} {version : ProtocolVersion} {m n : Nat}

/-! ### Texts of numbers -/

/-- Whether a text writes a number: blank characters, letters `v` in either case, a numeral and
blank characters again. -/
def WritesNumber (text : String) (n : Nat) : Prop :=
  ∃ before marks numeral after, text.toList = before ++ (marks ++ numeral) ++ after ∧
    (∀ c ∈ before, Text.isBlank c) ∧ (∀ c ∈ after, Text.isBlank c) ∧
    (∀ c ∈ marks, c = 'v' ∨ c = 'V') ∧ IsNumeral numeral n

theorem isMark_iff {c : Char} : isMark c ↔ c = 'v' ∨ c = 'V' := by
  rw [isMark, Bool.or_eq_true, beq_iff_eq, beq_iff_eq]

/-- The letters in front of a numeral end where it starts. -/
theorem dropWhile_isMark_numeral (h : IsNumeral chars n) : chars.dropWhile isMark = chars := by
  have hhead : isMark (chars.head h.ne_nil) = false := by
    obtain hplus | hdigit := h.eq_plus_or_isDigit (List.head_mem h.ne_nil)
    · rw [hplus]
      decide
    · rw [Bool.eq_false_iff]
      intro hmark
      obtain hc | hc := isMark_iff.mp hmark
      all_goals
        rw [hc] at hdigit
        exact absurd hdigit (by decide)
  simpa using Text.dropWhile_append_of_head h.ne_nil hhead []

/-- Neither the letters nor the numeral have a blank character in them. -/
theorem isBlank_eq_false_of_mem {marks numeral : List Char}
    (hmarks : ∀ c ∈ marks, c = 'v' ∨ c = 'V') (hnumeral : IsNumeral numeral n) {c : Char}
    (hc : c ∈ marks ++ numeral) : Text.isBlank c = false := by
  rw [List.mem_append] at hc
  obtain hc | hc := hc
  · obtain rfl | rfl := hmarks c hc
    all_goals decide
  · obtain rfl | hdigit := hnumeral.eq_plus_or_isDigit hc
    · decide
    · exact Text.isBlank_of_isDigit hdigit

/-- A text writes a number if the numeral is what is left of it after the blank characters at both
ends and then all letters in front are taken away. -/
theorem writesNumber_iff :
    WritesNumber text n ↔ IsNumeral ((Text.trimmed text).dropWhile isMark) n := by
  constructor
  · rintro ⟨before, marks, numeral, after, htext, hbefore, hafter, hmarks, hnumeral⟩
    have hne : marks ++ numeral ≠ [] := List.append_ne_nil_of_right_ne_nil _ hnumeral.ne_nil
    have htrimmed : Text.trimmed text = marks ++ numeral :=
      Text.trimmed_eq_of_append htext hbefore hafter hne
        fun _ => isBlank_eq_false_of_mem hmarks hnumeral
    rw [htrimmed, List.dropWhile_append_of_pos fun c hc => isMark_iff.mpr (hmarks c hc),
      dropWhile_isMark_numeral hnumeral]
    exact hnumeral
  · intro hnumeral
    obtain ⟨before, after, htext, hbefore, hafter⟩ := Text.exists_eq_append_trimmed text
    obtain ⟨marks, htrimmed, hmarks⟩ := Text.exists_eq_append_dropWhile isMark (Text.trimmed text)
    refine ⟨before, marks, _, after, ?_, hbefore, hafter, fun c hc => isMark_iff.mp (hmarks c hc),
      hnumeral⟩
    rw [← htrimmed]
    exact htext

theorem WritesNumber.unique (h : WritesNumber text m) (h' : WritesNumber text n) : m = n :=
  (writesNumber_iff.mp h).unique (writesNumber_iff.mp h')

theorem writesNumber_render (version : ProtocolVersion) :
    WritesNumber version.render version.number := by
  refine ⟨[], ['V'], (toString version.number).toList, [], ?_, nofun, nofun, ?_,
    Text.isNumeral_toString version.number⟩
  · show (toString "V" ++ toString version.number).toList = _
    rw [String.toList_append, List.append_nil]
    rfl
  · intro c hc
    exact .inr (List.mem_singleton.mp hc)

/-! ### Reading versions -/

theorem number_mem (version : ProtocolVersion) : version.number ∈ [3, 4, 5] := by
  cases version <;> decide

/-- A byte is read and looked up exactly if the number of the version is written. -/
theorem readByte?_bind_ofNumber?_eq_some_iff :
    (Text.readByte? chars).bind (ofNumber? ·.toNat) = some version ↔
      IsNumeral chars version.number := by
  rw [Option.bind_eq_some_iff]
  constructor
  · rintro ⟨byte, hbyte, hversion⟩
    rw [← eq_number_of_ofNumber? hversion]
    exact Text.readByte?_eq_some_iff.mp hbyte
  · intro hnumeral
    have hnumber : (UInt8.ofNat version.number).toNat = version.number := by
      cases version <;> rfl
    refine ⟨UInt8.ofNat version.number, ?_, ?_⟩
    · rw [Text.readByte?_eq_some_iff, hnumber]
      exact hnumeral
    · rw [hnumber, ofNumber?_number]

theorem parse_eq_ok_iff : parse text = .ok version ↔ WritesNumber text version.number := by
  rw [writesNumber_iff, ← readByte?_bind_ofNumber?_eq_some_iff, parse]
  split
  · next hfound => rw [hfound, Except.ok.injEq, Option.some.injEq]
  · next hnone => simp [hnone]

theorem parse_eq_error_iff {error : UnsupportedVersion} :
    parse text = .error error ↔
      (∀ version : ProtocolVersion, ¬ WritesNumber text version.number) ∧ error = ⟨text⟩ := by
  cases h : parse text with
  | ok version =>
    exact iff_of_false nofun fun hnone => hnone.1 version (parse_eq_ok_iff.mp h)
  | error found =>
    have hnone : ∀ version : ProtocolVersion, ¬ WritesNumber text version.number := by
      intro version hwrites
      rw [parse_eq_ok_iff.mpr hwrites] at h
      exact nomatch h
    have hfound : found = ⟨text⟩ := by
      unfold parse at h
      split at h
      · exact nomatch h
      · exact (Except.error.inj h).symm
    rw [Except.error.injEq, hfound, eq_comm]
    exact (and_iff_right hnone).symm

/-- A text is read as the version whose number it writes, and every other text is refused as it was
given.  A number counts in full, so that none is taken for its remainder: what is not 3, 4 or 5 is
refused.  The form in which a version is shown is read as this version. -/
theorem version_of_text (text : String) :
    (∀ version, parse text = .ok version ↔ WritesNumber text version.number) ∧
      (∀ error, parse text = .error error ↔
        (∀ version : ProtocolVersion, ¬ WritesNumber text version.number) ∧ error = ⟨text⟩) ∧
      (∀ n, WritesNumber text n → n ∉ [3, 4, 5] → parse text = .error ⟨text⟩) ∧
      ∀ version : ProtocolVersion, parse (toString version) = .ok version := by
  refine ⟨fun version => parse_eq_ok_iff, fun error => parse_eq_error_iff, ?_, ?_⟩
  · intro n hwrites hn
    refine parse_eq_error_iff.mpr ⟨fun version hversion => hn ?_, rfl⟩
    rw [hwrites.unique hversion]
    exact version.number_mem
  · intro version
    exact parse_eq_ok_iff.mpr version.writesNumber_render

/-- A number that is 256 more than a version's is none itself, and zeros in front change nothing. -/
theorem version_of_text_of_beyondBytes :
    WritesNumber "\tvV+0260 " 260 ∧ parse "\tvV+0260 " = .error ⟨"\tvV+0260 "⟩ ∧
      parse "\tvV+0004 " = .ok .v4 := by
  have htab : ∀ c ∈ ['\t'], Text.isBlank c := List.all_eq_true.mp rfl
  have hspace : ∀ c ∈ [' '], Text.isBlank c := List.all_eq_true.mp rfl
  have hletters : ∀ c ∈ ['v', 'V'], c = 'v' ∨ c = 'V' := by simp
  have hbeyond : WritesNumber "\tvV+0260 " 260 :=
    ⟨['\t'], ['v', 'V'], ['+', '0', '2', '6', '0'], [' '], rfl, htab, hspace, hletters,
      .signed ⟨List.cons_ne_nil _ _, List.all_eq_true.mp rfl, rfl⟩⟩
  have hfour : WritesNumber "\tvV+0004 " 4 :=
    ⟨['\t'], ['v', 'V'], ['+', '0', '0', '0', '4'], [' '], rfl, htab, hspace, hletters,
      .signed ⟨List.cons_ne_nil _ _, List.all_eq_true.mp rfl, rfl⟩⟩
  exact ⟨hbeyond, (version_of_text "\tvV+0260 ").2.2.1 260 hbeyond (by decide),
    ((version_of_text "\tvV+0004 ").1 .v4).mpr hfour⟩

/-- Blank characters behind the letter are not at an end of the text. -/
example : parse "v 4" = .error ⟨"v 4"⟩ := rfl

end CqlWire.ProtocolVersion
