import CqlWire.Proofs.Field.Unambiguous

/-!
# The bytes of counted lists

Named values, and the entries of a custom payload, are written behind their number, each with its
name in front of its content.  What is written in the end depends on nothing but the list: neither
on the version, which only decides whether anything is written, nor on what was written before
(`Field.isCounted_of_namedValues`, `Field.isCounted_of_bytesMap`).
-/

namespace CqlWire

/-- Elements that are each written in one form are written in these forms one after the other. -/
theorem Encoded.eq_flatMap_of_concat {α : Type} {fields : α → List Encoded} {form : α → Bytes}
    (hform : ∀ x written, concat (fields x) = .ok written → written = form x) {xs : List α}
    {written : Bytes} (h : concat (xs.flatMap fields) = .ok written) :
    written = xs.flatMap form := by
  rw [concat_flatMap] at h
  induction xs generalizing written with
  | nil => exact (Except.ok.inj h).symm
  | cons x xs ih =>
    obtain ⟨first, rest, hfirst, hrest, rfl⟩ := concat_cons_eq_ok_iff.mp h
    rw [hform x first hfirst, ih hrest, List.flatMap_cons]

namespace Field

/-- Whether elements, each in its form, are written behind their number, and the number fits. -/
def IsCounted {α : Type} (form : α → Bytes) (xs : List α) (written : Bytes) : Prop :=
  xs.length < 2 ^ 16 ∧ written = Bytes.bigEndian 2 xs.length ++ xs.flatMap form

/-- A text behind its length in two bytes. -/
def textForm (text : String) : Bytes :=
  Bytes.bigEndian 2 (Bytes.ofString text).length ++ Bytes.ofString text

/-- A named value: the name, then the number that tells the value or its length, then its bytes. -/
def namedValueForm (pair : String × EncodedValue) : Bytes :=
  textForm pair.1 ++ (Bytes.bigEndian 4 (valueHead pair.2) ++ valueContent pair.2)

/-- An entry of a custom payload: the key, then the content behind its length. -/
def entryForm (entry : String × Bytes) : Bytes :=
  textForm entry.1 ++ (Bytes.bigEndian 4 entry.2.length ++ entry.2)

theorem eq_textForm_of_string {text : String} {written : Bytes} (h : string text = .ok written) :
    written = textForm text :=
  (delimited_eq_ok_iff.mp h).2

theorem isCounted_of_concat {α : Type} {kind : FieldKind} (hwidth : kind.lengthWidth = 2)
    (hlimit : kind.lengthLimit = 2 ^ 16) {fields : α → List Encoded} {form : α → Bytes}
    (hform : ∀ x written, Encoded.concat (fields x) = .ok written → written = form x) {xs : List α}
    {written : Bytes}
    (h : Encoded.concat (length kind xs.length :: xs.flatMap fields) = .ok written) :
    IsCounted form xs written := by
  obtain ⟨number, rest, hnumber, hrest, rfl⟩ := Encoded.concat_cons_eq_ok_iff.mp h
  obtain ⟨hlt, rfl⟩ := length_eq_ok_iff.mp hnumber
  rw [hlimit] at hlt
  rw [Encoded.eq_flatMap_of_concat hform hrest, hwidth]
  exact ⟨hlt, rfl⟩

theorem isCounted_of_namedValues {version : ProtocolVersion}
    {pairs : List (String × EncodedValue)} {written : Bytes}
    (h : namedValues version pairs = .ok written) : IsCounted namedValueForm pairs written := by
  refine isCounted_of_concat rfl rfl (fun pair written hpair => ?_) h
  obtain ⟨name, rest, hname, hrest, rfl⟩ := Encoded.concat_cons_eq_ok_iff.mp hpair
  rw [Encoded.concat_singleton] at hrest
  obtain ⟨-, -, rfl⟩ := value_eq_ok hrest
  rw [eq_textForm_of_string hname, namedValueForm]

theorem isCounted_of_bytesMap {payload : CustomPayload} {written : Bytes}
    (h : bytesMap payload = .ok written) : IsCounted entryForm payload.toList written := by
  rw [bytesMap, ← Std.ExtTreeMap.length_toList] at h
  refine isCounted_of_concat rfl rfl (fun entry written hentry => ?_) h
  obtain ⟨key, rest, hkey, hrest, rfl⟩ := Encoded.concat_cons_eq_ok_iff.mp hentry
  rw [Encoded.concat_singleton] at hrest
  obtain ⟨-, rfl⟩ := delimited_eq_ok_iff.mp hrest
  rw [eq_textForm_of_string hkey]
  rfl

end Field

end CqlWire
