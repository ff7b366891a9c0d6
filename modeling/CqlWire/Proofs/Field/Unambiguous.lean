import CqlWire.Proofs.Bytes
import CqlWire.Proofs.Field.Concat

/-!
# Fields that tell their content

Two encodings are *unambiguous* up to `P` if one byte string can start with both of them only where
`P` holds, and only if both end at the same place.  With equality for `P`, a field tells its content
and where it ends, whatever follows it.

The notion goes through lists of fields (`Unambiguous.concat_cons`): what the first field has told
may be used for the fields behind it.  So a length tells where its content ends, and a flag tells
whether a field is there at all.  Every field that requests are made of is unambiguous up to
equality: numbers, texts, byte strings, encoded values, counted lists of them, and custom payloads.
-/

namespace CqlWire

/-- Wherever one byte string starts with both encodings, `P` holds and the same bytes follow. -/
def Unambiguous (left right : Encoded) (P : Prop) : Prop :=
  ∀ ⦃b c s t : Bytes⦄, left = .ok b → right = .ok c → b ++ s = c ++ t → P ∧ s = t

namespace Unambiguous

variable {left right : Encoded} {fields fields' : List Encoded} {P Q : Prop}

theorem imp (h : Unambiguous left right P) (hPQ : P → Q) : Unambiguous left right Q := by
  intro b c s t hb hc hst
  obtain ⟨hP, hst⟩ := h hb hc hst
  exact ⟨hPQ hP, hst⟩

/-- An encoding ends where it ends. -/
theorem refl (field : Encoded) : Unambiguous field field True := by
  intro b c s t hb hc hst
  rw [hb] at hc
  obtain rfl := Except.ok.inj hc
  exact ⟨trivial, List.append_cancel_left hst⟩

/-- Bytes as they stand are told where their number is known. -/
theorem ofLength {x y : Bytes} (hlen : x.length = y.length) :
    Unambiguous (.ok x) (.ok y) (x = y) := by
  intro b c s t hb hc hst
  obtain rfl := Except.ok.inj hb
  obtain rfl := Except.ok.inj hc
  exact List.append_inj hst hlen

/-! ### Lists of fields -/

theorem concat_nil : Unambiguous (.concat []) (.concat []) True := refl _

/-- What the first field tells may be used for those behind it. -/
theorem concat_cons (head : Unambiguous left right P)
    (tail : P → Unambiguous (.concat fields) (.concat fields') Q) :
    Unambiguous (.concat (left :: fields)) (.concat (right :: fields')) (P ∧ Q) := by
  intro b c s t hb hc hst
  obtain ⟨b₁, b₂, hb₁, hb₂, rfl⟩ := Encoded.concat_cons_eq_ok_iff.mp hb
  obtain ⟨c₁, c₂, hc₁, hc₂, rfl⟩ := Encoded.concat_cons_eq_ok_iff.mp hc
  rw [List.append_assoc, List.append_assoc] at hst
  -- What the fields behind it are written as counts as what follows the first field.
  obtain ⟨hP, hst⟩ := head hb₁ hc₁ hst
  obtain ⟨hQ, hst⟩ := tail hP hb₂ hc₂ hst
  exact ⟨⟨hP, hQ⟩, hst⟩

theorem concat_singleton (h : Unambiguous left right P) :
    Unambiguous (.concat [left]) (.concat [right]) P :=
  (h.concat_cons fun _ => concat_nil).imp And.left

/-- A list of known length is told if each of its elements is. -/
theorem concat_map {α : Type} {write write' : α → Encoded}
    (h : ∀ x y, Unambiguous (write x) (write' y) (x = y)) :
    ∀ {xs ys : List α}, xs.length = ys.length →
      Unambiguous (.concat (xs.map write)) (.concat (ys.map write')) (xs = ys)
  | [], [], _ => concat_nil.imp fun _ => rfl
  | x :: xs, y :: ys, hlen => by
    have hlen' : xs.length = ys.length := Nat.succ.inj hlen
    refine ((h x y).concat_cons fun _ => concat_map h hlen').imp ?_
    rintro ⟨rfl, rfl⟩
    rfl

end Unambiguous

namespace Field

/-! ### Numbers -/

theorem unambiguous_number {width m n : Nat} (hm : m < 256 ^ width) (hn : n < 256 ^ width) :
    Unambiguous (number width m) (number width n) (m = n) :=
  (Unambiguous.ofLength (by rw [Bytes.length_bigEndian, Bytes.length_bigEndian])).imp
    (Bytes.bigEndian_inj hm hn)

/-- What is written as a number is told if the number tells it and fits. -/
theorem unambiguous_number_apply {α : Type} {width : Nat} {f : α → Nat}
    (hf : Function.Injective f) (hwidth : ∀ x, f x < 256 ^ width) (x y : α) :
    Unambiguous (number width (f x)) (number width (f y)) (x = y) :=
  (unambiguous_number (hwidth x) (hwidth y)).imp fun h => hf h

theorem unambiguous_uint8 {width : Nat} (hwidth : 0 < width) (x y : UInt8) :
    Unambiguous (number width x.toNat) (number width y.toNat) (x = y) := by
  refine unambiguous_number_apply (fun _ _ h => UInt8.toNat_inj.mp h) (fun x => ?_) x y
  have hle : 256 ^ 1 ≤ 256 ^ width := Nat.pow_le_pow_right (by omega) hwidth
  have hlt := x.toNat_lt
  omega

theorem unambiguous_uint16 (x y : UInt16) :
    Unambiguous (number 2 x.toNat) (number 2 y.toNat) (x = y) :=
  unambiguous_number_apply (fun _ _ h => UInt16.toNat_inj.mp h) (fun x => x.toNat_lt) x y

theorem unambiguous_uint32 (x y : UInt32) :
    Unambiguous (number 4 x.toNat) (number 4 y.toNat) (x = y) :=
  unambiguous_number_apply (fun _ _ h => UInt32.toNat_inj.mp h) (fun x => x.toNat_lt) x y

theorem unambiguous_uint64 (x y : UInt64) :
    Unambiguous (number 8 x.toNat) (number 8 y.toNat) (x = y) :=
  unambiguous_number_apply (fun _ _ h => UInt64.toNat_inj.mp h) (fun x => x.toNat_lt) x y

theorem unambiguous_int16 (x y : Int16) :
    Unambiguous (number 2 x.toUInt16.toNat) (number 2 y.toUInt16.toNat) (x = y) :=
  (unambiguous_uint16 _ _).imp fun h => Function.LeftInverse.injective Int16.toInt16_toUInt16 h

theorem unambiguous_int32 (x y : Int32) :
    Unambiguous (number 4 x.toUInt32.toNat) (number 4 y.toUInt32.toNat) (x = y) :=
  (unambiguous_uint32 _ _).imp fun h => Function.LeftInverse.injective Int32.toInt32_toUInt32 h

theorem unambiguous_int64 (x y : Int64) :
    Unambiguous (number 8 x.toUInt64.toNat) (number 8 y.toUInt64.toNat) (x = y) :=
  (unambiguous_uint64 _ _).imp fun h => Function.LeftInverse.injective Int64.toInt64_toUInt64 h

/-! ### Lengths and what stands behind them -/

/-- A length that can be written fits into its room. -/
theorem length_eq_ok_iff {kind : FieldKind} {n : Nat} {b : Bytes} :
    length kind n = .ok b ↔ n < kind.lengthLimit ∧ b = Bytes.bigEndian kind.lengthWidth n := by
  unfold length number
  split_ifs with h
  · simp [h, eq_comm]
  · simp [h]

theorem lengthLimit_le (kind : FieldKind) : kind.lengthLimit ≤ 256 ^ kind.lengthWidth := by
  cases kind <;> decide

theorem unambiguous_length (kind : FieldKind) (m n : Nat) :
    Unambiguous (length kind m) (length kind n) (m = n) := by
  intro b c s t hb hc hst
  obtain ⟨hm, rfl⟩ := length_eq_ok_iff.mp hb
  obtain ⟨hn, rfl⟩ := length_eq_ok_iff.mp hc
  have hle := lengthLimit_le kind
  exact unambiguous_number (by omega) (by omega) rfl rfl hst

theorem delimited_eq_ok_iff {kind : FieldKind} {content b : Bytes} :
    delimited kind content = .ok b ↔
      content.length < kind.lengthLimit ∧
        b = Bytes.bigEndian kind.lengthWidth content.length ++ content := by
  unfold delimited
  rw [bind_eq_ok_iff]
  constructor
  · rintro ⟨head, hhead, h⟩
    obtain ⟨hlt, rfl⟩ := length_eq_ok_iff.mp hhead
    exact ⟨hlt, (Except.ok.inj h).symm⟩
  · rintro ⟨hlt, rfl⟩
    exact ⟨_, length_eq_ok_iff.mpr ⟨hlt, rfl⟩, rfl⟩

theorem unambiguous_delimited (kind : FieldKind) (x y : Bytes) :
    Unambiguous (delimited kind x) (delimited kind y) (x = y) := by
  intro b c s t hb hc hst
  obtain ⟨hx, rfl⟩ := delimited_eq_ok_iff.mp hb
  obtain ⟨hy, rfl⟩ := delimited_eq_ok_iff.mp hc
  rw [List.append_assoc, List.append_assoc] at hst
  obtain ⟨hlen, hst⟩ := unambiguous_length kind x.length y.length
    (length_eq_ok_iff.mpr ⟨hx, rfl⟩) (length_eq_ok_iff.mpr ⟨hy, rfl⟩) hst
  exact List.append_inj hst hlen

theorem unambiguous_string (s t : String) : Unambiguous (string s) (string t) (s = t) :=
  (unambiguous_delimited _ _ _).imp Bytes.ofString_inj

theorem unambiguous_longString (s t : String) :
    Unambiguous (longString s) (longString t) (s = t) :=
  (unambiguous_delimited _ _ _).imp Bytes.ofString_inj

theorem unambiguous_shortBytes (x y : Bytes) :
    Unambiguous (shortBytes x) (shortBytes y) (x = y) :=
  unambiguous_delimited _ x y

theorem unambiguous_bytes (x y : Bytes) : Unambiguous (bytes x) (bytes y) (x = y) :=
  unambiguous_delimited _ x y

/-! ### Encoded values -/

/-- The number that stands in front of an encoded value: its length, or the mark of what has
none. -/
def valueHead : EncodedValue → Nat
  | .bytes content => content.length
  | .null => 2 ^ 32 - 1
  | .unset => 2 ^ 32 - 2

/-- The bytes behind the number. -/
def valueContent : EncodedValue → Bytes
  | .bytes content => content
  | .null | .unset => []

/-- A value that can be written starts with its number; the length of bytes is below the marks. -/
theorem value_eq_ok {version : ProtocolVersion} {content : EncodedValue} {b : Bytes}
    (h : value version content = .ok b) :
    valueHead content < 2 ^ 32 ∧ (∀ bytes, content = .bytes bytes → bytes.length < 2 ^ 31) ∧
      b = Bytes.bigEndian 4 (valueHead content) ++ valueContent content := by
  cases content with
  | bytes content =>
    obtain ⟨hlt, rfl⟩ := delimited_eq_ok_iff.mp h
    have hlt : content.length < 2 ^ 31 := hlt
    refine ⟨by show content.length < 2 ^ 32; omega, ?_, rfl⟩
    rintro bytes ⟨⟩
    exact hlt
  | null =>
    obtain rfl := Except.ok.inj h
    exact ⟨by decide, nofun, by decide⟩
  | unset =>
    rw [value] at h
    split_ifs at h with hversion
    obtain rfl := Except.ok.inj h
    exact ⟨by decide, nofun, by decide⟩

/-- The marks are no lengths, so the number tells null, unset and bytes apart. -/
theorem eq_of_valueHead_eq {x y : EncodedValue}
    (hx : ∀ bytes, x = .bytes bytes → bytes.length < 2 ^ 31)
    (hy : ∀ bytes, y = .bytes bytes → bytes.length < 2 ^ 31)
    (hhead : valueHead x = valueHead y) :
    (valueContent x).length = (valueContent y).length ∧
      (valueContent x = valueContent y → x = y) := by
  -- Both marks are above 2 ^ 31, and lengths are below.
  rcases x with _ | _ | x <;> rcases y with _ | _ | y
  · exact ⟨rfl, fun _ => rfl⟩
  · exact absurd hhead (by decide)
  · have hlt := hy y rfl
    exact absurd hhead (by show 2 ^ 32 - 1 ≠ y.length; omega)
  · exact absurd hhead (by decide)
  · exact ⟨rfl, fun _ => rfl⟩
  · have hlt := hy y rfl
    exact absurd hhead (by show 2 ^ 32 - 2 ≠ y.length; omega)
  · have hlt := hx x rfl
    exact absurd hhead (by show x.length ≠ 2 ^ 32 - 1; omega)
  · have hlt := hx x rfl
    exact absurd hhead (by show x.length ≠ 2 ^ 32 - 2; omega)
  · exact ⟨hhead, congrArg EncodedValue.bytes⟩

theorem unambiguous_value (version : ProtocolVersion) (x y : EncodedValue) :
    Unambiguous (value version x) (value version y) (x = y) := by
  intro b c s t hb hc hst
  obtain ⟨hx, hxlen, rfl⟩ := value_eq_ok hb
  obtain ⟨hy, hylen, rfl⟩ := value_eq_ok hc
  rw [List.append_assoc, List.append_assoc] at hst
  have hnumber : Unambiguous (number 4 (valueHead x)) (number 4 (valueHead y)) _ :=
    unambiguous_number hx hy
  obtain ⟨hhead, hst⟩ := hnumber rfl rfl hst
  obtain ⟨hlen, heq⟩ := eq_of_valueHead_eq hxlen hylen hhead
  obtain ⟨hcontent, hst⟩ := List.append_inj hst hlen
  exact ⟨heq hcontent, hst⟩

/-! ### Counted lists -/

theorem unambiguous_positionalValues (version : ProtocolVersion) (xs ys : List EncodedValue) :
    Unambiguous (positionalValues version xs) (positionalValues version ys) (xs = ys) :=
  ((unambiguous_length _ _ _).concat_cons fun hlen =>
    Unambiguous.concat_map (unambiguous_value version) hlen).imp And.right

/-- Two fields that tell the halves of a pair tell the pair. -/
theorem unambiguous_pair {α β : Type} {write : α → Encoded} {write' : β → Encoded}
    (h : ∀ a b, Unambiguous (write a) (write b) (a = b))
    (h' : ∀ a b, Unambiguous (write' a) (write' b) (a = b)) (x y : α × β) :
    Unambiguous (.concat [write x.1, write' x.2]) (.concat [write y.1, write' y.2]) (x = y) :=
  ((h x.1 y.1).concat_cons fun _ => (h' x.2 y.2).concat_singleton).imp
    fun heq => Prod.ext heq.1 heq.2

theorem unambiguous_namedValues (version : ProtocolVersion) (xs ys : List (String × EncodedValue)) :
    Unambiguous (namedValues version xs) (namedValues version ys) (xs = ys) := by
  refine ((unambiguous_length _ _ _).concat_cons fun hlen => ?_).imp And.right
  rw [Encoded.concat_flatMap, Encoded.concat_flatMap]
  exact Unambiguous.concat_map (unambiguous_pair unambiguous_string (unambiguous_value version))
    hlen

theorem unambiguous_bytesMap (left right : CustomPayload) :
    Unambiguous (bytesMap left) (bytesMap right) (left = right) := by
  -- The entries are written in the order of their keys, so their list tells the payload.
  refine ((unambiguous_length _ _ _).concat_cons fun hlen => ?_).imp
    fun h => Std.ExtTreeMap.toList_inj.mp h.2
  rw [Encoded.concat_flatMap, Encoded.concat_flatMap]
  refine Unambiguous.concat_map (unambiguous_pair unambiguous_string unambiguous_bytes) ?_
  rw [Std.ExtTreeMap.length_toList, Std.ExtTreeMap.length_toList, hlen]

/-! ### Fields that may be absent -/

/-- Where it is known whether a field is there, the field tells its content. -/
theorem unambiguous_optional {α : Type} {write : α → Encoded}
    (h : ∀ a b, Unambiguous (write a) (write b) (a = b)) {x y : Option α}
    (hxy : x.isSome = y.isSome) : Unambiguous (optional write x) (optional write y) (x = y) := by
  cases x <;> cases y
  · exact (Unambiguous.refl _).imp fun _ => rfl
  · exact absurd hxy nofun
  · exact absurd hxy nofun
  · exact (h _ _).imp (congrArg some)

theorem unambiguous_onlyIf {present present' : Bool} {left right : Encoded} {P : Prop}
    (heq : present = present') (h : Unambiguous left right P) :
    Unambiguous (onlyIf present left) (onlyIf present' right) (present → P) := by
  subst heq
  cases present
  · exact (Unambiguous.refl _).imp nofun
  · exact h.imp fun hP _ => hP

end Field

end CqlWire
