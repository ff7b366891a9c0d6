import CqlWire.Proofs.Codec.RoundTrip

/-!
# Bytes are written back as they were read

What a codec reads it writes as the same bytes (`Codec.encode_eq_ok_of_decode`), except for numbers
of variable width, which are written in their shortest form.  So a codec accepts exactly the bytes
that it writes, and which these are is said without it (`Codec.Reads`).

`Value.encodeFor_canonical` collects what is known of a value and the type of a column: when the
value can be encoded for the column, what its bytes are, and that writing and reading undo each
other.
-/

namespace CqlWire

namespace Codec

variable {codec : Codec} {bytes : Bytes} {value : Value}

/-- The bytes that a codec reads. -/
def Reads : Codec → Bytes → Prop
  | boolean, bytes => bytes = [0] ∨ bytes = [1]
  | int, bytes => bytes.length = 4
  | bigint, bytes => bytes.length = 8
  | double, bytes => bytes.length = 8
  | text, bytes => bytes.IsUtf8
  | blob, _ => True
  | varint, bytes => bytes ≠ [] ∧ bytes.length ≤ 16

/-! ### Reading -/

theorem fixedWidth_eq_ok_iff {width : Nat} {read : Bytes → Except CodecError Value} :
    fixedWidth width bytes read = .ok value ↔ bytes.length = width ∧ read bytes = .ok value := by
  unfold fixedWidth
  split_ifs with h
  · exact (and_iff_right h).symm
  · exact iff_of_false nofun fun hboth => h hboth.1

/-- A truth value is read from one of two bytes. -/
theorem decode_boolean_eq_ok_iff :
    boolean.decode bytes = .ok value ↔
      bytes = [0] ∧ value = .boolean false ∨ bytes = [1] ∧ value = .boolean true := by
  rw [decode, fixedWidth_eq_ok_iff]
  constructor
  · rintro ⟨-, h⟩
    unfold decodeBoolean at h
    split at h
    · exact .inl ⟨rfl, (Except.ok.inj h).symm⟩
    · exact .inr ⟨rfl, (Except.ok.inj h).symm⟩
    · cases h
    · cases h
  · rintro (⟨rfl, rfl⟩ | ⟨rfl, rfl⟩)
    · exact ⟨rfl, rfl⟩
    · exact ⟨rfl, rfl⟩

theorem decode_int_eq_ok_iff :
    int.decode bytes = .ok value ↔
      bytes.length = 4 ∧ value = .int (Int32.ofInt bytes.toInt) := by
  rw [decode, fixedWidth_eq_ok_iff, Except.ok.injEq, eq_comm (a := value)]

theorem decode_bigint_eq_ok_iff :
    bigint.decode bytes = .ok value ↔
      bytes.length = 8 ∧ value = .bigint (Int64.ofInt bytes.toInt) := by
  rw [decode, fixedWidth_eq_ok_iff, Except.ok.injEq, eq_comm (a := value)]

theorem decode_double_eq_ok_iff :
    double.decode bytes = .ok value ↔
      bytes.length = 8 ∧ value = .double ⟨UInt64.ofNat bytes.toNat⟩ := by
  rw [decode, fixedWidth_eq_ok_iff, Except.ok.injEq, eq_comm (a := value)]

/-- A text is read from its own bytes. -/
theorem decode_text_eq_ok_iff :
    text.decode bytes = .ok value ↔ ∃ content, bytes = Bytes.ofString content ∧
      value = .text content := by
  simp only [← Bytes.toString?_eq_some_iff]
  rw [decode]
  cases bytes.toString? with
  | none => simp
  | some content => simp [eq_comm]

theorem decode_blob_eq_ok_iff : blob.decode bytes = .ok value ↔ value = .blob bytes := by
  rw [decode, Except.ok.injEq, eq_comm]

/-- Whether bytes are read does not depend on the value that is wanted. -/
theorem exists_decode_eq_ok_iff :
    (∃ value, codec.decode bytes = .ok value) ↔ codec.Reads bytes := by
  cases codec with
  | boolean => simp [decode_boolean_eq_ok_iff, Reads, exists_or]
  | int => simp [decode_int_eq_ok_iff, Reads]
  | bigint => simp [decode_bigint_eq_ok_iff, Reads]
  | double => simp [decode_double_eq_ok_iff, Reads]
  | text =>
    rw [Reads, ← Bytes.exists_toString?_eq_some_iff]
    simp only [decode_text_eq_ok_iff, Bytes.toString?_eq_some_iff]
    constructor
    · rintro ⟨value, content, hcontent, -⟩
      exact ⟨content, hcontent⟩
    · rintro ⟨content, hcontent⟩
      exact ⟨_, content, hcontent, rfl⟩
  | blob => simp [decode_blob_eq_ok_iff, Reads]
  | varint =>
    constructor
    · rintro ⟨value, h⟩
      obtain ⟨hne, hlength, -⟩ := decode_varint_eq_ok_iff.mp h
      exact ⟨hne, hlength⟩
    · rintro ⟨hne, hlength⟩
      exact ⟨_, decode_varint hne hlength⟩

/-! ### Writing back -/

/-- What a codec reads it writes as the same bytes, unless bytes that repeat a sign are left out. -/
theorem encode_eq_ok_of_decode (hcodec : codec ≠ .varint) (h : codec.decode bytes = .ok value) :
    codec.encode value = .ok bytes := by
  cases codec with
  | boolean =>
    rcases decode_boolean_eq_ok_iff.mp h with ⟨rfl, rfl⟩ | ⟨rfl, rfl⟩
    · rfl
    · rfl
  | int =>
    obtain ⟨hlength, rfl⟩ := decode_int_eq_ok_iff.mp h
    exact congrArg Except.ok (Bytes.bigEndian_toNat_ofInt hlength)
  | bigint =>
    obtain ⟨hlength, rfl⟩ := decode_bigint_eq_ok_iff.mp h
    exact congrArg Except.ok (Bytes.bigEndian_toNat_ofInt hlength)
  | double =>
    obtain ⟨hlength, rfl⟩ := decode_double_eq_ok_iff.mp h
    have hroom : bytes.toNat < 2 ^ 64 := by
      have hlt := Bytes.toNat_lt bytes
      rwa [hlength] at hlt
    have hbytes := Bytes.bigEndian_toNat bytes
    rw [hlength] at hbytes
    rw [encode, UInt64.toNat_ofNat', Nat.mod_eq_of_lt hroom, hbytes]
  | text =>
    obtain ⟨content, rfl, rfl⟩ := decode_text_eq_ok_iff.mp h
    rfl
  | blob =>
    obtain rfl := decode_blob_eq_ok_iff.mp h
    rfl
  | varint => exact absurd rfl hcodec

/-- A number of variable width is written in the shortest of its forms. -/
theorem exists_encode_varint_of_decode (h : varint.decode bytes = .ok value) :
    ∃ form, varint.encode value = .ok form ∧ Varint.IsShortestForm form bytes.toInt := by
  obtain ⟨-, -, number, hnumber, rfl⟩ := decode_varint_eq_ok_iff.mp h
  exact ⟨_, rfl, hnumber ▸ Varint.isShortestForm_encode number⟩

/-- A codec other than that of numbers of variable width reads exactly what it writes. -/
theorem reads_iff_exists_encode (hcodec : codec ≠ .varint) :
    codec.Reads bytes ↔ ∃ value, codec.encode value = .ok bytes := by
  rw [← exists_decode_eq_ok_iff]
  constructor
  · rintro ⟨value, h⟩
    exact ⟨value, encode_eq_ok_of_decode hcodec h⟩
  · rintro ⟨value, h⟩
    exact ⟨value, decode_eq_ok_of_encode h⟩

/-! ### Refusals -/

/-- A codec refuses the values of other kinds, and names itself and the kind. -/
theorem encode_eq_error_of_kind_ne (h : codec.kind ≠ value.kind) :
    codec.encode value = .error (.wrongValue codec value.kind) := by
  cases codec <;> cases value <;> first | rfl | exact absurd rfl h

end Codec

/-- A type has a codec if its columns hold values of some kind, and this is the kind that the codec
writes. -/
theorem ColumnType.codec_cases (type : ColumnType) :
    type.valueKind? = none ∧ Codec.ofType type = .error (.noCodecForType type) ∨
      ∃ codec : Codec, type.valueKind? = some codec.kind ∧ Codec.ofType type = .ok codec := by
  rw [← Codec.map_kind_ofType?, Codec.ofType]
  cases Codec.ofType? type with
  | none => exact .inl ⟨rfl, rfl⟩
  | some codec => exact .inr ⟨codec, rfl, rfl⟩

namespace Value

variable {type : ColumnType} {value : Value} {codec : Codec} {bytes : Bytes}
  {version : ProtocolVersion}

/-! ### Values and columns -/

/-- A value that a column admits has the bytes there that it has by its own kind. -/
theorem encodeFor_eq_encode (hadmits : type.Admits value) :
    value.encodeFor .standard version type = value.encode .standard version := by
  obtain ⟨slot, hslot⟩ := (exists_encodeFor_eq_ok_iff version).mpr hadmits
  rw [hslot, encode_eq_ok_of_encodeFor hslot]

/-- A value that a column does not admit needs a codec: there is none for the type of the column, or
one for values of another kind. -/
theorem encodeFor_of_not_admits (hrefused : ¬ type.Admits value) :
    type.valueKind? = none ∧
        value.encodeFor .standard version type = .error (.codec (.noCodecForType type)) ∨
      ∃ codec, Codec.ofType type = .ok codec ∧ codec.kind ≠ value.kind ∧
        value.encodeFor .standard version type
          = .error (.codec (.wrongValue codec value.kind)) := by
  have hneeds : value.NeedsCodec := by
    cases value with
    | null => exact absurd .null hrefused
    | unset => exact absurd .unset hrefused
    | token position => exact absurd (.token position) hrefused
    | _ => trivial
  rcases type.codec_cases with ⟨hnone, hcodec⟩ | ⟨codec, hsome, hcodec⟩
  · refine .inl ⟨hnone, encodeWith_eq_error_iff.mpr ⟨hneeds, _, ?_, rfl⟩⟩
    rw [CodecRegistry.forType_standard, hcodec]
    rfl
  · have hkind : codec.kind ≠ value.kind := fun heq =>
      hrefused (.ofKind (hsome.trans (congrArg some heq)))
    refine .inr ⟨codec, hcodec, hkind, encodeWith_eq_error_iff.mpr ⟨hneeds, _, ?_, rfl⟩⟩
    rw [CodecRegistry.forType_standard, hcodec]
    exact Codec.encode_eq_error_of_kind_ne hkind

/-- Bytes that are not those of a token are written by the codec of the type. -/
theorem encodeFor_eq_bytes_iff (hkind : value.kind ≠ .token) :
    value.encodeFor .standard version type = .ok (.bytes bytes) ↔
      ∃ codec, Codec.ofType type = .ok codec ∧ codec.encode value = .ok bytes := by
  rw [encodeFor, encodeWith_eq_ok_iff]
  constructor
  · intro hencoded
    cases hencoded with
    | token position => exact absurd rfl hkind
    | byCodec hneeds hfound hbytes =>
      obtain ⟨codec, hcodec, rfl⟩ := CodecRegistry.forType_standard_eq_ok_iff.mp hfound
      exact ⟨codec, hcodec, hbytes⟩
  · rintro ⟨codec, hcodec, hbytes⟩
    exact .byCodec (needsCodec_of_encode hbytes)
      (CodecRegistry.forType_standard_eq_ok_iff.mpr ⟨codec, hcodec, rfl⟩) hbytes

/-- What the codec of a type reads is no token. -/
theorem kind_ne_token_of_encode (h : codec.encode value = .ok bytes) : value.kind ≠ .token := by
  rw [← Codec.exists_encode_eq_ok_iff.mp ⟨bytes, h⟩]
  cases codec <;> exact nofun

/-- **Writing by kind and writing for a column agree, and reading undoes both.**  With the standard
registry, on any version, each value can be written by its own kind.  It can be written for a column
exactly if the column admits it, as the same bytes; otherwise the type of the column has no codec,
or one for values of another kind.  The codec of the type reads what was written for the column,
unless it is a token.  Whatever the codec reads, the value is written for the column as these bytes
again, or as the shortest form if the codec is that of numbers of variable width.  So the other
codecs read exactly what is written for their columns. -/
theorem encodeFor_canonical (version : ProtocolVersion) (value : Value) (type : ColumnType) :
    (∃ slot, value.encode .standard version = .ok slot) ∧
    ((∃ slot, value.encodeFor .standard version type = .ok slot) ↔ type.Admits value) ∧
    (type.Admits value →
      value.encodeFor .standard version type = value.encode .standard version) ∧
    (¬ type.Admits value →
      type.valueKind? = none ∧
        value.encodeFor .standard version type = .error (.codec (.noCodecForType type)) ∨
      ∃ codec, Codec.ofType type = .ok codec ∧ codec.kind ≠ value.kind ∧
        value.encodeFor .standard version type
          = .error (.codec (.wrongValue codec value.kind))) ∧
    (value.kind ≠ .token → ∀ bytes, value.encodeFor .standard version type = .ok (.bytes bytes) →
      ∃ codec, Codec.ofType type = .ok codec ∧ codec.decode bytes = .ok value) ∧
    ∀ codec, Codec.ofType type = .ok codec →
      type.valueKind? = some codec.kind ∧
      CodecRegistry.standard.forType type = .ok codec.toValueCodec ∧
      (∀ bytes, codec.decode bytes = .ok value →
        ∃ form, value.encodeFor .standard version type = .ok (.bytes form) ∧
          (codec ≠ .varint → form = bytes) ∧
          (codec = .varint → Varint.IsShortestForm form bytes.toInt)) ∧
      ∀ bytes,
        ((∃ decoded, codec.decode bytes = .ok decoded) ↔ codec.Reads bytes) ∧
        (codec ≠ .varint →
          (codec.Reads bytes ↔ ∃ written : Value, written.kind ≠ .token ∧
            written.encodeFor .standard version type = .ok (.bytes bytes))) := by
  refine ⟨value.exists_encode_eq_ok version, exists_encodeFor_eq_ok_iff version,
    encodeFor_eq_encode, encodeFor_of_not_admits, fun hkind bytes h => ?_, fun codec hcodec => ⟨?_,
      CodecRegistry.forType_standard_eq_ok_iff.mpr ⟨codec, hcodec, rfl⟩, fun bytes h => ?_,
      fun bytes => ⟨Codec.exists_decode_eq_ok_iff, fun hvarint => ?_⟩⟩⟩
  · obtain ⟨codec, hcodec, hbytes⟩ := (encodeFor_eq_bytes_iff hkind).mp h
    exact ⟨codec, hcodec, Codec.decode_eq_ok_of_encode hbytes⟩
  · rcases type.codec_cases with ⟨-, hnone⟩ | ⟨found, hsome, hfound⟩
    · exact nomatch hcodec.symm.trans hnone
    · obtain rfl := Except.ok.inj (hcodec.symm.trans hfound)
      exact hsome
  · have hwritten {form : Bytes} (hform : codec.encode value = .ok form) :
        value.encodeFor .standard version type = .ok (.bytes form) :=
      (encodeFor_eq_bytes_iff (kind_ne_token_of_encode hform)).mpr ⟨codec, hcodec, hform⟩
    by_cases hvarint : codec = .varint
    · subst hvarint
      obtain ⟨form, hform, hshortest⟩ := Codec.exists_encode_varint_of_decode h
      exact ⟨form, hwritten hform, absurd rfl, fun _ => hshortest⟩
    · have hsame := Codec.encode_eq_ok_of_decode hvarint h
      exact ⟨bytes, hwritten hsame, fun _ => rfl, fun heq => absurd heq hvarint⟩
  · rw [Codec.reads_iff_exists_encode hvarint]
    constructor
    · rintro ⟨written, h⟩
      have hkind := kind_ne_token_of_encode h
      exact ⟨written, hkind, (encodeFor_eq_bytes_iff hkind).mpr ⟨codec, hcodec, h⟩⟩
    · rintro ⟨written, hkind, h⟩
      obtain ⟨found, hfound, hbytes⟩ := (encodeFor_eq_bytes_iff hkind).mp h
      obtain rfl := Except.ok.inj (hcodec.symm.trans hfound)
      exact ⟨written, hbytes⟩

/-- A number is read from a form with a sign byte to spare, and is written without it.  A column of
texts does not admit it. -/
theorem encodeFor_canonical_of_sign_byte :
    let type : ColumnType := .native .varint
    let number : Value := .varint 128
    Codec.ofType type = .ok .varint ∧
      Codec.varint.decode [0x00, 0x00, 0x80] = .ok number ∧
      number.encodeFor .standard .v4 type = .ok (.bytes [0x00, 0x80]) ∧
      Varint.IsShortestForm [0x00, 0x80] 128 ∧
      (∃ codec, Codec.ofType type = .ok codec ∧ codec.decode [0x00, 0x80] = .ok number) ∧
      number.encodeFor .standard .v4 (.native .text)
        = .error (.codec (.wrongValue .text .varint)) := by
  intro type number
  have hcodec : Codec.ofType type = .ok .varint := rfl
  have hform : Varint.encode 128 = [0x00, 0x80] := by decide
  have hwritten : number.encodeFor .standard .v4 type = .ok (.bytes [0x00, 0x80]) :=
    (encodeFor_eq_bytes_iff (by decide)).mpr ⟨.varint, hcodec, congrArg Except.ok hform⟩
  have hread : Codec.varint.decode [0x00, 0x00, 0x80] = .ok number :=
    Codec.decode_varint_eq_ok_iff.mpr ⟨by decide, by decide, 128, by decide, rfl⟩
  obtain ⟨-, -, -, -, hreadBack, hcodecs⟩ := encodeFor_canonical .v4 number type
  obtain ⟨-, -, hforms, -⟩ := hcodecs .varint hcodec
  obtain ⟨form, hform', -, hshortest⟩ := hforms _ hread
  obtain rfl := EncodedValue.bytes.inj (Except.ok.inj (hwritten.symm.trans hform'))
  have hnumber : Bytes.toInt [0x00, 0x00, 0x80] = 128 := by decide
  refine ⟨hcodec, hread, hwritten, hnumber ▸ hshortest rfl, hreadBack (by decide) _ hwritten, ?_⟩
  have hrefused : ¬ (ColumnType.native .text).Admits (.varint 128) := by
    intro hadmits
    cases hadmits with
    | ofKind hkind => exact nomatch hkind
  obtain ⟨-, -, -, hrefuses, -⟩ := encodeFor_canonical .v4 number (.native .text)
  rcases hrefuses hrefused with ⟨hnone, -⟩ | ⟨codec, hfound, -, herror⟩
  · exact nomatch hnone
  · obtain rfl := Except.ok.inj hfound
    exact herror

end Value

end CqlWire
