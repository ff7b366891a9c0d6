import CqlWire.Proofs.Field.Concat
import Mathlib.Tactic.SplitIfs

/-!
# Why fields can not be written

`FailsOnly P` says that every failure of a field is one for which `P` holds.  It goes through lists
of fields (`FailsOnly.concat`), so the failures of a list are found by looking at its fields one by
one.  Almost all fields can only be too long; only a value left unset is refused for another reason
(`Field.failsOnly_value`).
-/

namespace CqlWire

/-- A length did not fit into the room for it. -/
def FrameError.IsTooLong : FrameError → Prop
  | tooLong _ _ => True
  | unsupported _ _ => False

/-- If the field can not be written, `P` holds for the reason. -/
def FailsOnly (P : FrameError → Prop) (field : Encoded) : Prop :=
  ∀ ⦃error : FrameError⦄, field = .error error → P error

namespace FailsOnly

variable {P Q : FrameError → Prop} {field : Encoded} {fields : List Encoded}

theorem ok (bytes : Bytes) : FailsOnly P (.ok bytes) := nofun

theorem imp (h : FailsOnly P field) (hPQ : ∀ error, P error → Q error) : FailsOnly Q field :=
  fun error herror => hPQ error (h herror)

/-- The reason for a list is the reason for one of its fields. -/
theorem concat (h : ∀ field ∈ fields, FailsOnly P field) : FailsOnly P (.concat fields) := by
  intro error herror
  obtain ⟨field, hmem, hfield⟩ := Encoded.exists_mem_of_concat_eq_error herror
  exact h field hmem hfield

theorem concat_cons (head : FailsOnly P field) (tail : FailsOnly P (.concat fields)) :
    FailsOnly P (.concat (field :: fields)) := by
  intro error herror
  rw [Encoded.concat_cons] at herror
  rcases bind_eq_error_iff.mp herror with h | ⟨first, -, h⟩
  · exact head h
  · rcases bind_eq_error_iff.mp h with h | ⟨rest, -, h⟩
    · exact tail h
    · exact absurd h nofun

theorem concat_singleton (h : FailsOnly P field) : FailsOnly P (.concat [field]) :=
  h.concat_cons (ok [])

end FailsOnly

namespace Field

/-! ### Fields that can only be too long -/

theorem failsOnly_number {P : FrameError → Prop} (width n : Nat) : FailsOnly P (number width n) :=
  FailsOnly.ok _

theorem failsOnly_length (kind : FieldKind) (n : Nat) :
    FailsOnly FrameError.IsTooLong (length kind n) := by
  unfold length
  split_ifs
  · exact FailsOnly.ok _
  · rintro error ⟨⟩
    exact trivial

theorem failsOnly_delimited (kind : FieldKind) (content : Bytes) :
    FailsOnly FrameError.IsTooLong (delimited kind content) := by
  intro error herror
  rcases bind_eq_error_iff.mp herror with h | ⟨head, -, h⟩
  · exact failsOnly_length kind _ h
  · exact absurd h nofun

theorem failsOnly_string (text : String) : FailsOnly FrameError.IsTooLong (string text) :=
  failsOnly_delimited _ _

theorem failsOnly_longString (text : String) : FailsOnly FrameError.IsTooLong (longString text) :=
  failsOnly_delimited _ _

theorem failsOnly_shortBytes (content : Bytes) :
    FailsOnly FrameError.IsTooLong (shortBytes content) :=
  failsOnly_delimited _ _

theorem failsOnly_bytes (content : Bytes) : FailsOnly FrameError.IsTooLong (bytes content) :=
  failsOnly_delimited _ _

theorem failsOnly_bytesMap (payload : CustomPayload) :
    FailsOnly FrameError.IsTooLong (bytesMap payload) := by
  refine (failsOnly_length .bytesMap _).concat_cons ?_
  rw [Encoded.concat_flatMap]
  refine FailsOnly.concat ?_
  simp only [List.forall_mem_map]
  rintro ⟨key, content⟩ -
  exact (failsOnly_string key).concat_cons (failsOnly_bytes content).concat_singleton

/-! ### Fields that may be absent -/

theorem failsOnly_optional {P : FrameError → Prop} {α : Type} {write : α → Encoded}
    (h : ∀ x, FailsOnly P (write x)) (content : Option α) :
    FailsOnly P (optional write content) := by
  cases content with
  | none => exact FailsOnly.ok []
  | some content => exact h content

theorem failsOnly_onlyIf {P : FrameError → Prop} {field : Encoded} (present : Bool)
    (h : FailsOnly P field) : FailsOnly P (onlyIf present field) := by
  cases present with
  | false => exact FailsOnly.ok []
  | true => exact h

/-! ### Values -/

/-- Why values can not be written: something is too long, or one of them is unset and the version
has no place for that. -/
def RefusesValues (version : ProtocolVersion) (values : List EncodedValue) (error : FrameError) :
    Prop :=
  error.IsTooLong ∨
    (error = .unsupported .unsetValues version ∧ version.writesUnset = false ∧ .unset ∈ values)

theorem failsOnly_value (version : ProtocolVersion) {content : EncodedValue}
    {values : List EncodedValue} (hmem : content ∈ values) :
    FailsOnly (RefusesValues version values) (value version content) := by
  cases content with
  | bytes content => exact (failsOnly_bytes content).imp fun _ => Or.inl
  | null => exact FailsOnly.ok _
  | unset =>
    unfold value
    split_ifs with hwrites
    · exact FailsOnly.ok _
    · rintro error ⟨⟩
      exact Or.inr ⟨rfl, Bool.eq_false_iff.mpr hwrites, hmem⟩

theorem failsOnly_positionalValues (version : ProtocolVersion) (values : List EncodedValue) :
    FailsOnly (RefusesValues version values) (positionalValues version values) := by
  refine ((failsOnly_length .values _).imp fun _ => Or.inl).concat_cons (FailsOnly.concat ?_)
  rw [List.forall_mem_map]
  exact fun content hmem => failsOnly_value version hmem

theorem failsOnly_namedValues (version : ProtocolVersion) (values : List (String × EncodedValue)) :
    FailsOnly (RefusesValues version (values.map (·.2))) (namedValues version values) := by
  refine ((failsOnly_length .values _).imp fun _ => Or.inl).concat_cons ?_
  rw [Encoded.concat_flatMap]
  refine FailsOnly.concat ?_
  rw [List.forall_mem_map]
  rintro ⟨name, content⟩ hmem
  exact ((failsOnly_string name).imp fun _ => Or.inl).concat_cons
    (failsOnly_value version (List.mem_map_of_mem hmem)).concat_singleton

/-- A version that has no place for unset values can not write one. -/
theorem value_unset_eq_error {version : ProtocolVersion} (h : version.writesUnset = false) :
    value version .unset = .error (.unsupported .unsetValues version) := by
  rw [value, h]
  rfl

theorem exists_positionalValues_eq_error {version : ProtocolVersion}
    (h : version.writesUnset = false) {values : List EncodedValue} (hmem : .unset ∈ values) :
    ∃ error, positionalValues version values = .error error := by
  have hvalue : value version .unset ∈ values.map (value version) := List.mem_map_of_mem hmem
  exact Encoded.exists_concat_eq_error (List.mem_cons_of_mem _ hvalue) (value_unset_eq_error h)

theorem exists_namedValues_eq_error {version : ProtocolVersion} (h : version.writesUnset = false)
    {values : List (String × EncodedValue)} (hmem : .unset ∈ values.map (·.2)) :
    ∃ error, namedValues version values = .error error := by
  obtain ⟨⟨name, content⟩, hpair, rfl⟩ := List.mem_map.mp hmem
  have hvalue : value version .unset ∈
      values.flatMap fun pair => [string pair.1, value version pair.2] :=
    List.mem_flatMap.mpr ⟨_, hpair, List.mem_cons_of_mem _ List.mem_cons_self⟩
  exact Encoded.exists_concat_eq_error (List.mem_cons_of_mem _ hvalue) (value_unset_eq_error h)

end Field

end CqlWire
