import CqlWire.Proofs.Codec.Encoding
import CqlWire.Proofs.Codec.Varint

/-!
# Values are read back from their bytes

What a codec of the library writes it reads back (`Codec.decode_eq_ok_of_encode`).

With the standard registry, a value can be encoded for a column exactly if the type of the column
admits it (`Value.exists_encodeFor_eq_ok_iff`), and its bytes are those that it has by its own kind
(`Value.encode_eq_ok_of_encodeFor`).  The version makes no difference
(`CodecRegistry.ignoresVersion_standard`).
-/

namespace CqlWire

/-! ### Codecs -/

namespace Codec

/-- What a codec writes it reads back. -/
theorem decode_eq_ok_of_encode {codec : Codec} {value : Value} {bytes : Bytes}
    (h : codec.encode value = .ok bytes) : codec.decode bytes = .ok value := by
  unfold encode at h
  split at h
  · next value =>
    obtain rfl := Except.ok.inj h
    cases value <;> rfl
  · next value =>
    obtain rfl := Except.ok.inj h
    have hvalue : Bytes.toInt (Bytes.bigEndian 4 value.toUInt32.toNat) = value.toInt :=
      Bytes.toInt_bigEndian_toNat 4 value.toBitVec
    rw [decode, fixedWidth, if_pos (Bytes.length_bigEndian _ _), hvalue, Int32.ofInt_toInt]
  · next value =>
    obtain rfl := Except.ok.inj h
    have hvalue : Bytes.toInt (Bytes.bigEndian 8 value.toUInt64.toNat) = value.toInt :=
      Bytes.toInt_bigEndian_toNat 8 value.toBitVec
    rw [decode, fixedWidth, if_pos (Bytes.length_bigEndian _ _), hvalue, Int64.ofInt_toInt]
  · next value =>
    obtain rfl := Except.ok.inj h
    have hvalue : value.bits.toNat % 256 ^ 8 = value.bits.toNat :=
      Nat.mod_eq_of_lt value.bits.toNat_lt
    rw [decode, fixedWidth, if_pos (Bytes.length_bigEndian _ _), Bytes.toNat_bigEndian, hvalue,
      UInt64.ofNat_toNat]
  · next value =>
    obtain rfl := Except.ok.inj h
    rw [decode, Bytes.toString?_ofString]
  · next value =>
    obtain rfl := Except.ok.inj h
    rfl
  · next value =>
    obtain rfl := Except.ok.inj h
    rw [decode_varint (Varint.encode_ne_nil value) (Varint.length_encode_le value),
      Varint.decode_encode]
  · cases h

/-- A codec writes the values of its kind and no others. -/
theorem exists_encode_eq_ok_iff {codec : Codec} {value : Value} :
    (∃ bytes, codec.encode value = .ok bytes) ↔ codec.kind = value.kind := by
  cases codec <;> cases value <;> simp [encode, kind, Value.kind]

/-- A codec is found by the kind of the values that it writes. -/
theorem ofKind_kind (codec : Codec) : ofKind codec.kind = .ok codec := by
  cases codec <;> rfl

end Codec

/-! ### Types of columns -/

/-- The kind of the values that a column of a native type holds, if the library can write any. -/
def NativeType.valueKind? : NativeType → Option ValueKind
  | boolean => some .boolean
  | int => some .int
  | bigint | counter | timestamp => some .bigint
  | double => some .double
  | ascii | text => some .text
  | blob => some .blob
  | varint => some .varint
  | _ => none

def ColumnType.valueKind? : ColumnType → Option ValueKind
  | native type => type.valueKind?
  | _ => none

/-- Whether a value can be bound to a column of a type: null, unset values and tokens can always be,
and others if they are of the kind that the column holds. -/
inductive ColumnType.Admits (type : ColumnType) : Value → Prop
  | null : Admits type .null
  | unset : Admits type .unset
  | token (position : Token) : Admits type (.token position)
  | ofKind {value : Value} (hkind : type.valueKind? = some value.kind) : Admits type value

theorem Codec.map_kind_ofType? (type : ColumnType) :
    (Codec.ofType? type).map Codec.kind = type.valueKind? := by
  cases type with
  | native type => cases type <;> rfl
  | _ => rfl

/-- A codec writes a value for a column exactly if it is of the kind that the column holds. -/
theorem Codec.exists_ofType_encode_eq_ok_iff {type : ColumnType} {value : Value} :
    (∃ codec bytes, Codec.ofType type = .ok codec ∧ codec.encode value = .ok bytes) ↔
      type.valueKind? = some value.kind := by
  rw [← Codec.map_kind_ofType?, Codec.ofType]
  cases Codec.ofType? type with
  | none => simp
  | some codec => simp [Codec.exists_encode_eq_ok_iff]

/-! ### The standard registry -/

namespace CodecRegistry

theorem forType_standard (type : ColumnType) :
    standard.forType type = (Codec.ofType type).map Codec.toValueCodec := rfl

theorem forType_standard_eq_ok_iff {type : ColumnType} {found : ValueCodec} :
    standard.forType type = .ok found ↔
      ∃ codec, Codec.ofType type = .ok codec ∧ codec.toValueCodec = found := by
  rw [forType_standard]
  cases Codec.ofType type <;> simp [Except.map]

theorem forValue_standard_of_encode {codec : Codec} {value : Value} {bytes : Bytes}
    (h : codec.encode value = .ok bytes) : standard.forValue value = .ok codec.toValueCodec := by
  show (Codec.ofKind value.kind).map Codec.toValueCodec = _
  rw [← Codec.exists_encode_eq_ok_iff.mp ⟨bytes, h⟩, Codec.ofKind_kind]
  rfl

end CodecRegistry

/-! ### Encoded values -/

namespace Value

variable {type : ColumnType} {value : Value} {slot : EncodedValue} {version : ProtocolVersion}

/-- A value that a codec of the library writes needs one. -/
theorem needsCodec_of_encode {codec : Codec} {bytes : Bytes} (h : codec.encode value = .ok bytes) :
    value.NeedsCodec := by
  have hkind := Codec.exists_encode_eq_ok_iff.mp ⟨bytes, h⟩
  cases value with
  | null => cases codec <;> exact nomatch hkind
  | unset => cases codec <;> exact nomatch hkind
  | token position => cases codec <;> exact nomatch hkind
  | _ => trivial

/-- A value can be encoded for a column exactly if the type of the column admits it. -/
theorem exists_encodeFor_eq_ok_iff (version : ProtocolVersion) :
    (∃ slot, value.encodeFor .standard version type = .ok slot) ↔ type.Admits value := by
  simp only [encodeFor, encodeWith_eq_ok_iff]
  constructor
  · rintro ⟨slot, hencoded⟩
    cases hencoded with
    | null => exact .null
    | unset => exact .unset
    | token position => exact .token position
    | byCodec hneeds hfound hbytes =>
      obtain ⟨codec, hcodec, rfl⟩ := CodecRegistry.forType_standard_eq_ok_iff.mp hfound
      exact .ofKind (Codec.exists_ofType_encode_eq_ok_iff.mp ⟨codec, _, hcodec, hbytes⟩)
  · intro hadmits
    cases hadmits with
    | null => exact ⟨_, .null⟩
    | unset => exact ⟨_, .unset⟩
    | token position => exact ⟨_, .token position⟩
    | ofKind hkind =>
      obtain ⟨codec, bytes, hcodec, hbytes⟩ := Codec.exists_ofType_encode_eq_ok_iff.mpr hkind
      exact ⟨_, .byCodec (needsCodec_of_encode hbytes)
        (CodecRegistry.forType_standard_eq_ok_iff.mpr ⟨codec, hcodec, rfl⟩) hbytes⟩

/-- Each value can be encoded by its own kind. -/
theorem exists_encode_eq_ok (version : ProtocolVersion) (value : Value) :
    ∃ slot, value.encode .standard version = .ok slot := by
  cases value with
  | token position => exact ⟨_, encodeWith_token position⟩
  | _ => exact ⟨_, rfl⟩

/-- A value has the same bytes in every column that admits it. -/
theorem encode_eq_ok_of_encodeFor (h : value.encodeFor .standard version type = .ok slot) :
    value.encode .standard version = .ok slot := by
  refine encodeWith_eq_ok_iff.mpr ?_
  cases encodeWith_eq_ok_iff.mp h with
  | null => exact .null
  | unset => exact .unset
  | token position => exact .token position
  | byCodec hneeds hfound hbytes =>
    obtain ⟨codec, -, rfl⟩ := CodecRegistry.forType_standard_eq_ok_iff.mp hfound
    exact .byCodec hneeds (CodecRegistry.forValue_standard_of_encode hbytes) hbytes

end Value

/-! ### Versions -/

/-- Whether a registry encodes each value in the same way for all versions. -/
def CodecRegistry.IgnoresVersion (codecs : CodecRegistry) : Prop :=
  ∀ (value : Value) (version version' : ProtocolVersion),
    value.encode codecs version = value.encode codecs version'

theorem CodecRegistry.ignoresVersion_standard : standard.IgnoresVersion := by
  intro value version version'
  cases value <;> rfl

end CqlWire
