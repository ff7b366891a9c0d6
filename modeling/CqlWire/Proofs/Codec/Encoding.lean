import CqlWire.Codec.Encoding
import CqlWire.Proofs.Outcome

/-!
# Encoding with any registry

What is known of encoded values whatever the codecs are.  Null, unset values and tokens need no
codec and are encoded alike with any registry; all other values are encoded exactly if a codec is
found and writes them (`Value.encodeWith_eq_ok_iff`), and fail only with the error of the search or
of the codec (`Value.encodeWith_eq_error_iff`).

A token can always be encoded: the places on the ring are signed numbers of 128 bits
(`Token.encode_eq_ok`).
-/

namespace CqlWire

/-! ### Tokens -/

namespace Token

theorem toNat_ofNat_ringPosition (position : Fin ringSize) :
    (BitVec.ofNat 128 position.val).toNat = position.val := by
  have hroom : position.val < 2 ^ 128 := Nat.lt_trans position.isLt (by decide)
  rw [BitVec.toNat_ofNat, Nat.mod_eq_of_lt hroom]

/-- A ring position fits into a signed number of 128 bits. -/
theorem toInt_ofNat_ringPosition (position : Fin ringSize) :
    (BitVec.ofNat 128 position.val).toInt = position.val := by
  have hring : position.val < 2 ^ 127 := position.isLt
  have hnat := toNat_ofNat_ringPosition position
  rw [BitVec.toInt_eq_toNat_of_lt (by omega), hnat]

/-- No ring position is out of range. -/
theorem toInt128_ringPosition (position : Fin ringSize) :
    toInt128 position.val = .ok (BitVec.ofNat 128 position.val) :=
  if_pos (toInt_ofNat_ringPosition position)

/-- The bytes of a token. -/
def written : Token → Bytes
  | hash64 value => Bytes.bigEndian 8 value.toUInt64.toNat
  | bigint position => Varint.encode (BitVec.ofNat 128 position.val)
  | raw key => key.bytes

/-- Each token can be encoded. -/
theorem encode_eq_ok (token : Token) : token.encode = .ok token.written := by
  cases token with
  | hash64 value => rfl
  | bigint position =>
    rw [encode, toInt128_ringPosition]
    rfl
  | raw key => rfl

end Token

/-! ### Values -/

namespace Value

variable {value : Value} {slot : EncodedValue} {error : ClientError}
  {found : Except CodecError ValueCodec} {version : ProtocolVersion}

/-- Whether a value is encoded by a codec. -/
def NeedsCodec : Value → Prop
  | null | unset | token _ => False
  | _ => True

/-- The encoded form of a value, where `found` is the codec to take if the value needs one. -/
inductive IsEncodedAs (found : Except CodecError ValueCodec) (version : ProtocolVersion) :
    Value → EncodedValue → Prop
  | null : IsEncodedAs found version .null .null
  | unset : IsEncodedAs found version .unset .unset
  | token (position : Token) :
    IsEncodedAs found version (.token position) (.bytes position.written)
  | byCodec {codec : ValueCodec} {value : Value} {bytes : Bytes} (hneeds : value.NeedsCodec)
      (hfound : found = .ok codec) (hbytes : codec.encode value version = .ok bytes) :
    IsEncodedAs found version value (.bytes bytes)

theorem encodeWith_token (position : Token) :
    (token position).encodeWith found version = .ok (.bytes position.written) := by
  rw [encodeWith, position.encode_eq_ok]
  rfl

theorem encodeWith_of_needsCodec (hneeds : value.NeedsCodec) :
    value.encodeWith found version = do
      return .bytes (← (do (← found).encode value version).mapError ClientError.codec) := by
  cases value with
  | null => exact hneeds.elim
  | unset => exact hneeds.elim
  | token position => exact hneeds.elim
  | _ => rfl

theorem encodeWith_eq_ok_iff :
    value.encodeWith found version = .ok slot ↔ IsEncodedAs found version value slot := by
  have hcodec (hneeds : value.NeedsCodec) :
      value.encodeWith found version = .ok slot ↔
        ∃ codec bytes, found = .ok codec ∧ codec.encode value version = .ok bytes ∧
          slot = .bytes bytes := by
    rw [encodeWith_of_needsCodec hneeds, map_eq_ok_iff]
    simp only [mapError_eq_ok_iff, bind_eq_ok_iff]
    constructor
    · rintro ⟨bytes, ⟨codec, hfound, hbytes⟩, rfl⟩
      exact ⟨codec, bytes, hfound, hbytes, rfl⟩
    · rintro ⟨codec, bytes, hfound, hbytes, rfl⟩
      exact ⟨bytes, ⟨codec, hfound, hbytes⟩, rfl⟩
  constructor
  · intro h
    cases value with
    | null =>
      obtain rfl := Except.ok.inj h
      exact .null
    | unset =>
      obtain rfl := Except.ok.inj h
      exact .unset
    | token position =>
      obtain rfl := Except.ok.inj ((encodeWith_token position).symm.trans h)
      exact .token position
    | _ =>
      obtain ⟨codec, bytes, hfound, hbytes, rfl⟩ := (hcodec trivial).mp h
      exact .byCodec trivial hfound hbytes
  · intro h
    cases h with
    | null => rfl
    | unset => rfl
    | token position => exact encodeWith_token position
    | byCodec hneeds hfound hbytes => exact (hcodec hneeds).mpr ⟨_, _, hfound, hbytes, rfl⟩

/-- Only codecs refuse values. -/
theorem encodeWith_eq_error_iff :
    value.encodeWith found version = .error error ↔
      value.NeedsCodec ∧ ∃ cause, (found >>= fun codec => codec.encode value version) = .error cause
        ∧ .codec cause = error := by
  have hcodec (hneeds : value.NeedsCodec) :
      value.encodeWith found version = .error error ↔
        ∃ cause, (found >>= fun codec => codec.encode value version) = .error cause
          ∧ .codec cause = error := by
    rw [encodeWith_of_needsCodec hneeds, map_eq_error_iff, mapError_eq_error_iff]
  cases value with
  | null => exact iff_of_false nofun fun h => h.1
  | unset => exact iff_of_false nofun fun h => h.1
  | token position =>
    rw [encodeWith_token]
    exact iff_of_false nofun fun h => h.1
  | _ => exact (hcodec trivial).trans (and_iff_right trivial).symm

theorem exists_cause_of_encodeWith (h : value.encodeWith found version = .error error) :
    ∃ cause, error = .codec cause := by
  obtain ⟨-, cause, -, rfl⟩ := encodeWith_eq_error_iff.mp h
  exact ⟨cause, rfl⟩

end Value

end CqlWire
