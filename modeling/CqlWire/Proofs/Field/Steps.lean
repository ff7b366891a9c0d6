import CqlWire.Proofs.Field.Unambiguous
import CqlWire.Proofs.Reason

/-!
# Writing in steps

Whatever is written is written in steps: bytes as they stand, a length, or a look at whether the
protocol version has a place for what comes next (`WriteStep`).  A field that is `WrittenBy` some
steps can be written exactly if all of them pass, and then its bytes are those of the steps, one
after the other (`WrittenBy.eq_ok_iff`).  Otherwise the first step that does not pass decides about
the error (`WrittenBy.failsBy`).  A length that passes is read back from its bytes as it was
(`WriteStep.toNat_bytes_of_passes`).
-/

namespace CqlWire

/-- A step of writing. -/
inductive WriteStep where
  | raw (bytes : Bytes)
  /-- The length of what comes next. -/
  | length (kind : FieldKind) (n : Nat)
  /-- Whether what comes next is possible in this version; nothing is written. -/
  | gate (feature : Feature) (version : ProtocolVersion) (possible : Bool)

namespace WriteStep

def write : WriteStep → Encoded
  | raw bytes => .ok bytes
  | length kind n => Field.length kind n
  | gate feature version possible =>
    if possible then .ok [] else .error (.unsupported feature version)

/-- Whether the step lets the writing go on. -/
def Passes : WriteStep → Prop
  | raw _ => True
  | length kind n => n < kind.lengthLimit
  | gate _ _ possible => possible

/-- Whether the step stops the writing with this error: a length is reported as it is, and a version
that lacks something by its name. -/
def Refuses : WriteStep → FrameError → Prop
  | raw _, _ => False
  | length kind n, error => kind.lengthLimit ≤ n ∧ error = .tooLong kind n
  | gate feature version possible, error =>
    possible = false ∧ error = .unsupported feature version

/-- What the step writes if it passes. -/
def bytes : WriteStep → Bytes
  | raw bytes => bytes
  | length kind n => Bytes.bigEndian kind.lengthWidth n
  | gate _ _ _ => []

/-! ### One step -/

theorem write_eq_ok_iff {step : WriteStep} {b : Bytes} :
    step.write = .ok b ↔ step.Passes ∧ b = step.bytes := by
  cases step with
  | raw bytes => simp [write, Passes, WriteStep.bytes, eq_comm]
  | length kind n => exact Field.length_eq_ok_iff
  | gate feature version possible =>
    cases possible with
    | false => exact iff_of_false nofun fun h => nomatch h.1
    | true => simp [write, Passes, WriteStep.bytes, eq_comm]

theorem write_eq_error_iff {step : WriteStep} {error : FrameError} :
    step.write = .error error ↔ step.Refuses error := by
  cases step with
  | raw bytes => exact iff_of_false nofun id
  | length kind n =>
    rw [write, Refuses, Field.length]
    split_ifs with h
    · exact iff_of_false nofun fun hrefuses => absurd hrefuses.1 (Nat.not_le.mpr h)
    · rw [and_iff_right (Nat.not_lt.mp h), Except.error.injEq, eq_comm]
  | gate feature version possible =>
    cases possible with
    | false => simp [write, Refuses, eq_comm]
    | true => exact iff_of_false nofun fun h => nomatch h.1

/-- **No length is cut off**: one that passes is read back as it was. -/
theorem toNat_bytes_of_passes {kind : FieldKind} {n : Nat} (h : (length kind n).Passes) :
    (length kind n).bytes.length = kind.lengthWidth ∧ (length kind n).bytes.toNat = n := by
  have hlt : n < 256 ^ kind.lengthWidth := Nat.lt_of_lt_of_le h (Field.lengthLimit_le kind)
  refine ⟨Bytes.length_bigEndian _ _, ?_⟩
  rw [WriteStep.bytes, Bytes.toNat_bigEndian, Nat.mod_eq_of_lt hlt]

theorem not_refuses_of_passes {step : WriteStep} (h : step.Passes) (error : FrameError) :
    ¬ step.Refuses error := by
  intro hrefuses
  have hok : step.write = .ok step.bytes := write_eq_ok_iff.mpr ⟨h, rfl⟩
  exact nomatch hok.symm.trans (write_eq_error_iff.mpr hrefuses)

/-- Steps that pass are never the first ones that do not. -/
theorem not_isFirst_of_passes {steps : List WriteStep} (h : ∀ step ∈ steps, step.Passes)
    (error : FrameError) : ¬ IsFirst (steps.map Refuses) error := by
  intro hfirst
  obtain ⟨reason, hreason, hrefuses⟩ := hfirst.exists_mem
  obtain ⟨step, hstep, rfl⟩ := List.mem_map.mp hreason
  exact not_refuses_of_passes (h step hstep) error hrefuses

/-- What passes may be left out when looking for the first step that does not. -/
theorem isFirst_append_of_passes {front steps back : List WriteStep}
    (h : ∀ step ∈ steps, step.Passes) {error : FrameError} :
    IsFirst ((front ++ (steps ++ back)).map Refuses) error ↔
      IsFirst ((front ++ back).map Refuses) error := by
  simp only [List.map_append, isFirst_append_iff, not_isFirst_of_passes h, false_or,
    not_false_eq_true, implies_true, true_and]

end WriteStep

/-! ### Fields in steps -/

/-- Whether writing a field comes to the same as these steps, one after the other. -/
def WrittenBy (field : Encoded) (steps : List WriteStep) : Prop :=
  field = .concat (steps.map WriteStep.write)

namespace WrittenBy

variable {field : Encoded} {fields : List Encoded} {steps steps' : List WriteStep}

/-- A field can be written exactly if all its steps pass. -/
theorem eq_ok_iff (h : WrittenBy field steps) {b : Bytes} :
    field = .ok b ↔ (∀ step ∈ steps, step.Passes) ∧ b = steps.flatMap (·.bytes) := by
  rw [h]
  clear h
  induction steps generalizing b with
  | nil =>
    rw [List.flatMap_nil, and_iff_right (List.forall_mem_nil _)]
    exact ⟨fun h => (Except.ok.inj h).symm, fun h => h ▸ rfl⟩
  | cons first steps ih =>
    rw [List.map_cons, Encoded.concat_cons_eq_ok_iff, List.forall_mem_cons, List.flatMap_cons]
    simp only [WriteStep.write_eq_ok_iff, ih]
    constructor
    · rintro ⟨_, _, ⟨hfirst, rfl⟩, ⟨hsteps, rfl⟩, rfl⟩
      exact ⟨⟨hfirst, hsteps⟩, rfl⟩
    · rintro ⟨⟨hfirst, hsteps⟩, rfl⟩
      exact ⟨_, _, ⟨hfirst, rfl⟩, ⟨hsteps, rfl⟩, rfl⟩

/-- A field that can not be written fails with the error of the first step that does not pass. -/
theorem failsBy (h : WrittenBy field steps) : FailsBy field (steps.map WriteStep.Refuses) := by
  rw [h]
  clear h
  induction steps with
  | nil => exact FailsBy.ok []
  | cons first steps ih =>
    rw [List.map_cons, List.map_cons, Encoded.concat_cons, ← List.singleton_append]
    refine (FailsBy.of_eq_error_iff fun _ => WriteStep.write_eq_error_iff).bind fun _ _ => ?_
    rw [← List.append_nil (steps.map WriteStep.Refuses)]
    exact ih.bind fun _ _ => FailsBy.ok _

/-! ### Lists of fields -/

theorem ok (b : Bytes) : WrittenBy (.ok b) [.raw b] :=
  (Encoded.concat_singleton _).symm

theorem nothing : WrittenBy (.ok []) [] := rfl

theorem concat_nil : WrittenBy (.concat []) [] := rfl

theorem concat_cons (head : WrittenBy field steps) (tail : WrittenBy (.concat fields) steps') :
    WrittenBy (.concat (field :: fields)) (steps ++ steps') := by
  rw [WrittenBy, Encoded.concat_cons, List.map_append, Encoded.concat_append, ← head, ← tail]

theorem concat_singleton (h : WrittenBy field steps) : WrittenBy (.concat [field]) steps := by
  rw [← List.append_nil steps]
  exact h.concat_cons concat_nil

theorem concat_map {α : Type} {write : α → Encoded} {stepsOf : α → List WriteStep}
    (h : ∀ x, WrittenBy (write x) (stepsOf x)) (xs : List α) :
    WrittenBy (.concat (xs.map write)) (xs.flatMap stepsOf) := by
  induction xs with
  | nil => exact concat_nil
  | cons x xs ih => exact (h x).concat_cons ih

end WrittenBy

/-! ### Fields -/

namespace WriteStep

/-- The steps of bytes behind their length. -/
def delimited (kind : FieldKind) (content : Bytes) : List WriteStep :=
  [length kind content.length, raw content]

/-- The steps of a text behind its length. -/
def text (kind : FieldKind) (content : String) : List WriteStep :=
  delimited kind (Bytes.ofString content)

/-- The steps of an encoded value. -/
def value (version : ProtocolVersion) : EncodedValue → List WriteStep
  | .bytes content => delimited .bytes content
  | .null => [raw [0xFF, 0xFF, 0xFF, 0xFF]]
  | .unset => [gate .unsetValues version version.writesUnset, raw [0xFF, 0xFF, 0xFF, 0xFE]]

/-- The steps of values behind their number. -/
def positionalValues (version : ProtocolVersion) (values : List EncodedValue) : List WriteStep :=
  length .values values.length :: values.flatMap (value version)

/-- The steps of named values behind their number. -/
def namedValues (version : ProtocolVersion) (values : List (String × EncodedValue)) :
    List WriteStep :=
  length .values values.length ::
    values.flatMap fun pair => text .string pair.1 ++ value version pair.2

/-- The steps of a custom payload. -/
def bytesMap (payload : CustomPayload) : List WriteStep :=
  length .bytesMap payload.size ::
    payload.toList.flatMap fun entry => text .string entry.1 ++ delimited .bytes entry.2

/-- The steps of a field that may be absent. -/
def optional {α : Type} (steps : α → List WriteStep) : Option α → List WriteStep
  | none => []
  | some content => steps content

/-- The steps of a field that is written only under a condition. -/
def onlyIf (present : Bool) (steps : List WriteStep) : List WriteStep :=
  if present then steps else []

end WriteStep

namespace Field

theorem writtenBy_number (width n : Nat) :
    WrittenBy (number width n) [.raw (Bytes.bigEndian width n)] :=
  .ok _

theorem writtenBy_length (kind : FieldKind) (n : Nat) :
    WrittenBy (length kind n) [.length kind n] :=
  (Encoded.concat_singleton _).symm

theorem writtenBy_delimited (kind : FieldKind) (content : Bytes) :
    WrittenBy (delimited kind content) (WriteStep.delimited kind content) := by
  have hfields : delimited kind content
      = .concat [length kind content.length, .ok content] := by
    rw [Encoded.concat_cons, Encoded.concat_singleton]
    rfl
  rw [hfields]
  exact (writtenBy_length _ _).concat_cons (WrittenBy.ok _).concat_singleton

theorem writtenBy_string (content : String) :
    WrittenBy (string content) (WriteStep.text .string content) :=
  writtenBy_delimited _ _

theorem writtenBy_longString (content : String) :
    WrittenBy (longString content) (WriteStep.text .longString content) :=
  writtenBy_delimited _ _

theorem writtenBy_shortBytes (content : Bytes) :
    WrittenBy (shortBytes content) (WriteStep.delimited .shortBytes content) :=
  writtenBy_delimited _ _

theorem writtenBy_bytes (content : Bytes) :
    WrittenBy (bytes content) (WriteStep.delimited .bytes content) :=
  writtenBy_delimited _ _

theorem writtenBy_value (version : ProtocolVersion) (content : EncodedValue) :
    WrittenBy (value version content) (WriteStep.value version content) := by
  cases content with
  | bytes content => exact writtenBy_bytes content
  | null => exact WrittenBy.ok _
  | unset =>
    rw [WrittenBy, WriteStep.value, List.map_cons, List.map_singleton, Encoded.concat_cons,
      WriteStep.write, value]
    cases version.writesUnset with
    | false => rfl
    | true => rfl

/-- A field and the one behind it take the steps of both. -/
theorem writtenBy_pair {α β : Type} {write : α → Encoded} {write' : β → Encoded}
    {stepsOf : α → List WriteStep} {stepsOf' : β → List WriteStep}
    (h : ∀ a, WrittenBy (write a) (stepsOf a)) (h' : ∀ b, WrittenBy (write' b) (stepsOf' b))
    (x : α × β) : WrittenBy (.concat [write x.1, write' x.2]) (stepsOf x.1 ++ stepsOf' x.2) :=
  (h x.1).concat_cons (h' x.2).concat_singleton

theorem writtenBy_positionalValues (version : ProtocolVersion) (values : List EncodedValue) :
    WrittenBy (positionalValues version values) (WriteStep.positionalValues version values) :=
  (writtenBy_length _ _).concat_cons (.concat_map (writtenBy_value version) values)

theorem writtenBy_namedValues (version : ProtocolVersion) (values : List (String × EncodedValue)) :
    WrittenBy (namedValues version values) (WriteStep.namedValues version values) := by
  refine (writtenBy_length _ _).concat_cons ?_
  rw [Encoded.concat_flatMap]
  exact .concat_map (writtenBy_pair writtenBy_string (writtenBy_value version)) values

theorem writtenBy_bytesMap (payload : CustomPayload) :
    WrittenBy (bytesMap payload) (WriteStep.bytesMap payload) := by
  refine (writtenBy_length _ _).concat_cons ?_
  rw [Encoded.concat_flatMap]
  exact .concat_map (writtenBy_pair writtenBy_string writtenBy_bytes) payload.toList

theorem writtenBy_optional {α : Type} {write : α → Encoded} {stepsOf : α → List WriteStep}
    (h : ∀ x, WrittenBy (write x) (stepsOf x)) (content : Option α) :
    WrittenBy (optional write content) (WriteStep.optional stepsOf content) := by
  cases content with
  | none => exact WrittenBy.nothing
  | some content => exact h content

theorem writtenBy_onlyIf {field : Encoded} {steps : List WriteStep} (present : Bool)
    (h : WrittenBy field steps) :
    WrittenBy (onlyIf present field) (WriteStep.onlyIf present steps) := by
  cases present with
  | false => exact WrittenBy.nothing
  | true => exact h

end Field

end CqlWire
