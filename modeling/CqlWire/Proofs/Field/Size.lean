import CqlWire.Proofs.Field.Concat
import Mathlib.Tactic.SplitIfs

/-!
# The sizes of fields

Whatever can be written takes as many bytes as its size says (`HasSize`).  Sizes add up along lists
of fields (`HasSize.concat_cons`, `HasSize.concat_map`), so that the functions of `FieldSize` give
the exact sizes of texts, byte strings, encoded values, counted lists and custom payloads.
-/

namespace CqlWire

/-- If the field can be written, it takes `size` bytes. -/
def HasSize (field : Encoded) (size : Nat) : Prop :=
  ∀ ⦃bytes : Bytes⦄, field = .ok bytes → bytes.length = size

namespace HasSize

variable {field : Encoded} {fields : List Encoded} {m n : Nat}

theorem ok (bytes : Bytes) : HasSize (.ok bytes) bytes.length := by
  intro written h
  rw [Except.ok.inj h]

/-- What can not be written has any size. -/
theorem error (error : FrameError) (size : Nat) : HasSize (.error error) size := nofun

/-! ### Lists of fields -/

theorem concat_nil : HasSize (.concat []) 0 := ok []

theorem concat_cons (head : HasSize field m) (tail : HasSize (.concat fields) n) :
    HasSize (.concat (field :: fields)) (m + n) := by
  intro bytes h
  obtain ⟨first, rest, hfirst, hrest, rfl⟩ := Encoded.concat_cons_eq_ok_iff.mp h
  rw [List.length_append, head hfirst, tail hrest]

theorem concat_singleton (h : HasSize field n) : HasSize (.concat [field]) n :=
  h.concat_cons concat_nil

theorem concat_map {α : Type} {write : α → Encoded} {size : α → Nat}
    (h : ∀ x, HasSize (write x) (size x)) (xs : List α) :
    HasSize (.concat (xs.map write)) (FieldSize.total (xs.map size)) := by
  induction xs with
  | nil => exact concat_nil
  | cons x xs ih => exact (h x).concat_cons ih

end HasSize

/-! ### Sizes -/

namespace FieldSize

theorem total_map_le {α : Type} {size size' : α → Nat} (h : ∀ x, size x ≤ size' x) (xs : List α) :
    total (xs.map size) ≤ total (xs.map size') := by
  induction xs with
  | nil => exact Nat.le_refl 0
  | cons x xs ih => exact Nat.add_le_add (h x) ih

/-- The size of a field that may be absent. -/
def optional {α : Type} (size : α → Nat) : Option α → Nat
  | none => 0
  | some content => size content

/-- The size of a field that is written only under a condition. -/
def onlyIf (present : Bool) (size : Nat) : Nat := if present then size else 0

end FieldSize

/-! ### Fields -/

namespace Field

theorem hasSize_number (width n : Nat) : HasSize (number width n) width := by
  intro bytes h
  rw [← Except.ok.inj h, Bytes.length_bigEndian]

theorem hasSize_length (kind : FieldKind) (n : Nat) :
    HasSize (length kind n) kind.lengthWidth := by
  unfold length
  split_ifs
  · exact hasSize_number _ _
  · exact HasSize.error _ _

theorem hasSize_delimited (kind : FieldKind) (content : Bytes) :
    HasSize (delimited kind content) (kind.lengthWidth + content.length) := by
  intro bytes h
  obtain ⟨head, hhead, h⟩ := bind_eq_ok_iff.mp h
  rw [← Except.ok.inj h, List.length_append, hasSize_length _ _ hhead]

theorem hasSize_string (text : String) : HasSize (string text) (FieldSize.string text) := by
  have h := hasSize_delimited .string (Bytes.ofString text)
  rwa [Bytes.length_ofString] at h

theorem hasSize_longString (text : String) :
    HasSize (longString text) (FieldSize.longString text) := by
  have h := hasSize_delimited .longString (Bytes.ofString text)
  rwa [Bytes.length_ofString] at h

theorem hasSize_shortBytes (content : Bytes) :
    HasSize (shortBytes content) (FieldSize.shortBytes content) :=
  hasSize_delimited .shortBytes content

theorem hasSize_bytes (content : Bytes) : HasSize (bytes content) (FieldSize.bytes content) :=
  hasSize_delimited .bytes content

theorem hasSize_value (version : ProtocolVersion) (content : EncodedValue) :
    HasSize (value version content) (FieldSize.value content) := by
  cases content with
  | bytes content => exact hasSize_bytes content
  | null => exact HasSize.ok [0xFF, 0xFF, 0xFF, 0xFF]
  | unset =>
    unfold value
    split_ifs
    · exact HasSize.ok [0xFF, 0xFF, 0xFF, 0xFE]
    · exact HasSize.error _ _

/-! ### Counted lists -/

theorem hasSize_positionalValues (version : ProtocolVersion) (values : List EncodedValue) :
    HasSize (positionalValues version values) (FieldSize.positionalValues values) :=
  (hasSize_length .values _).concat_cons (HasSize.concat_map (hasSize_value version) values)

/-- A field and the one behind it take what both take. -/
theorem hasSize_pair {α β : Type} {write : α → Encoded} {write' : β → Encoded} {size : α → Nat}
    {size' : β → Nat} (h : ∀ a, HasSize (write a) (size a)) (h' : ∀ b, HasSize (write' b) (size' b))
    (x : α × β) : HasSize (.concat [write x.1, write' x.2]) (size x.1 + size' x.2) :=
  (h x.1).concat_cons (h' x.2).concat_singleton

theorem hasSize_namedValues (version : ProtocolVersion) (values : List (String × EncodedValue)) :
    HasSize (namedValues version values) (FieldSize.namedValues values) := by
  refine (hasSize_length .values _).concat_cons ?_
  rw [Encoded.concat_flatMap]
  exact HasSize.concat_map (hasSize_pair hasSize_string (hasSize_value version)) values

theorem hasSize_bytesMap (payload : CustomPayload) :
    HasSize (bytesMap payload) (FieldSize.bytesMap payload) := by
  refine (hasSize_length .bytesMap _).concat_cons ?_
  rw [Encoded.concat_flatMap]
  exact HasSize.concat_map (hasSize_pair hasSize_string hasSize_bytes) payload.toList

/-! ### Fields that may be absent -/

theorem hasSize_optional {α : Type} {write : α → Encoded} {size : α → Nat}
    (h : ∀ x, HasSize (write x) (size x)) (content : Option α) :
    HasSize (optional write content) (FieldSize.optional size content) := by
  cases content with
  | none => exact HasSize.ok []
  | some content => exact h content

theorem hasSize_onlyIf {field : Encoded} {size : Nat} (present : Bool) (h : HasSize field size) :
    HasSize (onlyIf present field) (FieldSize.onlyIf present size) := by
  cases present with
  | false => exact HasSize.ok []
  | true => exact h

end Field

end CqlWire
