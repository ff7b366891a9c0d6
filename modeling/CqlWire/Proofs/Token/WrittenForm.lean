import CqlWire.Proofs.Codec.RoundTrip

/-!
# The written form of tokens

A token is written as the value of its scheme that it stands for (`Token.value`), with the codec of
its scheme, and the same token is built from what this codec reads (`Token.ofValue?_value`).  So the
tokens of a scheme are told apart by their bytes (`Token.written_inj_iff`).  A ring position fits
into a signed number, which is never negative (`Token.toInt_ofNat_ringPosition`), so that its first
bit is clear.

`Token.encode_identifies` collects this and says that no column changes the bytes.
-/

namespace CqlWire

/-! ### Tokens as values -/

/-- The codec in which the tokens of a scheme are written. -/
def TokenScheme.codec : TokenScheme → Codec
  | hash64 => .bigint
  | bigint => .varint
  | raw => .blob

namespace Token

variable {token other : Token} {place : Nat}

/-- The value that is written for a token. -/
def value : Token → Value
  | hash64 hash => .bigint hash
  | bigint position => .varint (BitVec.ofNat 128 position.val)
  | raw key => .blob key.bytes

/-- The token of a scheme that is built from a value.  The bits of a negative number are a number
beyond the ring. -/
def ofValue? : TokenScheme → Value → Option Token
  | .hash64, .bigint hash => some (hash64 hash)
  | .bigint, .varint number => (ofNat number.toNat).toOption
  | .raw, .blob key => some (ofKey key)
  | _, _ => none

/-- Each token is built in the way of its scheme. -/
theorem exists_built (token : Token) :
    (∃ hash, token = hash64 hash) ∨ (∃ place, ofNat place = .ok token) ∨
      ∃ key, token = ofKey key := by
  cases token with
  | hash64 hash => exact .inl ⟨hash, rfl⟩
  | bigint position => exact .inr (.inl ⟨position.val, dif_pos position.isLt⟩)
  | raw key =>
    obtain ⟨bytes, hshortened⟩ := key
    refine .inr (.inr ⟨bytes, ?_⟩)
    simp only [ofKey, KeyToken.ofKey, hshortened]

/-- Only places on the ring have a token. -/
theorem ofNat_eq_ok_iff :
    ofNat place = .ok token ↔ ∃ h : place < ringSize, token = bigint ⟨place, h⟩ := by
  unfold ofNat
  split_ifs with h
  · rw [Except.ok.injEq, eq_comm]
    exact ⟨fun heq => ⟨h, heq⟩, fun ⟨_, heq⟩ => heq⟩
  · exact iff_of_false nofun fun ⟨hlt, _⟩ => h hlt

/-! ### Writing and reading -/

/-- The first bit of a ring position is clear. -/
theorem exists_written_bigint_eq_cons (position : Fin ringSize) :
    ∃ first rest, (bigint position).written = first :: rest ∧ first < 0x80 := by
  have hshortest := Varint.isShortestForm_encode (BitVec.ofNat 128 position.val)
  obtain ⟨first, rest, hform⟩ := List.exists_cons_of_ne_nil hshortest.ne_nil
  refine ⟨first, rest, hform, UInt8.not_le.mp fun hsign => ?_⟩
  have hnegative := (Bytes.toInt_cons_lt_zero_iff first rest).mpr hsign
  rw [← hform, hshortest.toInt_eq, toInt_ofNat_ringPosition] at hnegative
  omega

/-- A token is written with the codec of its scheme. -/
theorem encode_value (token : Token) :
    token.scheme.codec.encode token.value = .ok token.written := by
  cases token <;> rfl

theorem decode_written (token : Token) :
    token.scheme.codec.decode token.written = .ok token.value :=
  Codec.decode_eq_ok_of_encode token.encode_value

/-- The token that is built from the value of a token is the token itself. -/
theorem ofValue?_value (token : Token) : ofValue? token.scheme token.value = some token := by
  cases token with
  | hash64 hash => rfl
  | bigint position =>
    show (ofNat (BitVec.ofNat 128 position.val).toNat).toOption = _
    rw [toNat_ofNat_ringPosition, ofNat, dif_pos position.isLt]
    rfl
  | raw key =>
    obtain ⟨bytes, hshortened⟩ := key
    show some (ofKey bytes) = _
    simp only [ofKey, KeyToken.ofKey, hshortened]

/-- Tokens of a scheme are told apart by their bytes. -/
theorem written_inj_iff (hscheme : other.scheme = token.scheme) :
    other.written = token.written ↔ other = token := by
  refine ⟨fun h => ?_, congrArg written⟩
  have hother := other.decode_written
  rw [hscheme, h, token.decode_written] at hother
  have hvalue : token.value = other.value := Except.ok.inj hother
  have hbuilt := other.ofValue?_value
  rw [hscheme, ← hvalue, token.ofValue?_value] at hbuilt
  exact (Option.some.inj hbuilt).symm

/-- **The bytes of a token tell it within its scheme, in whatever column it is written.**  Each
token is built from a hash, from a place on the ring or from a key, and can be written: with any
registry, by kind and for every type of a column, as the bytes that the codec of its scheme writes.
This codec reads a value from the bytes, of which the same token is built again, so that no other
token of the scheme has the same bytes.  A place on the ring is never out of range, and is written
as the signed number that has its value, in at most sixteen bytes of which the first bit is
clear. -/
theorem encode_identifies (token : Token) :
    ((∃ hash, token = hash64 hash) ∨ (∃ place, ofNat place = .ok token) ∨
      ∃ key, token = ofKey key) ∧
    ∃ bytes, token.encode = .ok bytes ∧
      (∃ value, token.scheme.codec.decode bytes = .ok value ∧
        ofValue? token.scheme value = some token) ∧
      (∀ other : Token, other.scheme = token.scheme →
        (other.encode = .ok bytes ↔ other = token)) ∧
      (∀ place, ofNat place = .ok token →
        (∃ number : Int128, toInt128 place = .ok number ∧ number.toInt = place ∧
          bytes = Varint.encode number) ∧
        bytes.length ≤ 16 ∧
        ∃ first rest, bytes = first :: rest ∧ first < 0x80) ∧
      ∀ codecs version,
        (Value.token token).encode codecs version = .ok (.bytes bytes) ∧
        ∀ type, (Value.token token).encodeFor codecs version type = .ok (.bytes bytes) := by
  refine ⟨token.exists_built, token.written, token.encode_eq_ok,
    ⟨token.value, token.decode_written, token.ofValue?_value⟩, fun other hscheme => ?_,
    fun place hplace => ?_,
    fun codecs version => ⟨Value.encodeWith_token token, fun type => Value.encodeWith_token token⟩⟩
  · rw [other.encode_eq_ok, Except.ok.injEq, written_inj_iff hscheme]
  · obtain ⟨hring, rfl⟩ := ofNat_eq_ok_iff.mp hplace
    exact ⟨⟨_, toInt128_ringPosition ⟨place, hring⟩, toInt_ofNat_ringPosition ⟨place, hring⟩, rfl⟩,
      Varint.length_encode_le _, exists_written_bigint_eq_cons _⟩

/-- The first place on the ring that takes a byte more than its digits, and the last place. -/
theorem encode_identifies_of_ringPositions :
    let first : Token := bigint ⟨0x80, by decide⟩
    let last : Token := bigint ⟨2 ^ 127 - 1, by decide⟩
    first.encode = .ok [0x00, 0x80] ∧
      ofNat 0x80 = .ok first ∧ ofNat (2 ^ 127 - 1) = .ok last ∧
      ∃ bytes, last.encode = .ok bytes ∧ bytes.length ≤ 16 ∧
        (∃ head rest, bytes = head :: rest ∧ head < 0x80) ∧
        first.scheme = last.scheme ∧ first.encode ≠ .ok bytes := by
  intro first last
  have hfirst : ofNat 0x80 = .ok first := by decide
  have hlast : ofNat (2 ^ 127 - 1) = .ok last := by decide
  obtain ⟨-, bytes, hbytes, -, hsame, hplace, -⟩ := encode_identifies last
  obtain ⟨-, hlength, hhead⟩ := hplace _ hlast
  exact ⟨by decide, hfirst, hlast, bytes, hbytes, hlength, hhead, rfl,
    mt (hsame first rfl).mp (by decide)⟩

end Token

end CqlWire
