import CqlWire.Proofs.Frame.Layout
import CqlWire.Proofs.Request.Unambiguous

/-!
# Frames that tell their content

A frame tells where it ends and what it was made of, whatever bytes follow it, up to what the wire
does not carry (`Frame.SameOnWire`):

* the custom payload where the version does not support it,
* which of the blocks without values is meant,
* which of the page sizes that are not positive is meant,
* the result metadata id of an execute request where the version does not send it, and the
  difference between none and an empty one where it does.

Conversely, frames that differ in nothing else are written alike.  The main statement is
`Frame.encode_append_inj`.  The header comes first and tells how what follows it is to be read.
-/

namespace CqlWire

/-- Frames that are written alike. -/
structure Frame.SameOnWire (features : FeatureTable) (left right : Frame) : Prop where
  version : left.version = right.version
  stream : left.stream = right.stream
  tracing : left.tracing = right.tracing
  /-- A custom payload that is not supported is not written. -/
  customPayload : features left.version .customPayload → left.customPayload = right.customPayload
  request : left.request.SameOnWire left.version right.request

/-! ### The header -/

namespace ProtocolVersion

theorem number_injective : Function.Injective number := by
  intro version version' h
  have hfound := congrArg ofNumber? h
  rwa [ofNumber?_number, ofNumber?_number, Option.some.injEq] at hfound

theorem number_lt (version : ProtocolVersion) : version.number < 256 ^ 1 := by
  cases version <;> decide

end ProtocolVersion

namespace Frame

variable {features : FeatureTable} {left right : Frame}

/-- The flags of the header have a bit each. -/
theorem eq_of_headerFlags_eq (h : left.headerFlags features = right.headerFlags features) :
    left.tracing = right.tracing ∧ left.writesPayload features = right.writesPayload features := by
  have hbits : ∀ a b c d : Bool,
      (if a then 2 else 0) + (if b then 4 else 0) = (if c then 2 else 0) + (if d then 4 else 0) →
        a = c ∧ b = d := by decide
  exact hbits _ _ _ _ h

theorem headerFlags_lt (frame : Frame) : frame.headerFlags features < 256 ^ 1 := by
  unfold headerFlags
  split_ifs <;> decide

/-- The header tells all it was made of: the version, both flags, the stream, the kind of the
request and the length of what follows. -/
theorem unambiguous_encodeHeader (m n : Nat) :
    Unambiguous (left.encodeHeader features m) (right.encodeHeader features n)
      (left.version = right.version ∧ left.headerFlags features = right.headerFlags features ∧
        left.stream = right.stream ∧ left.request.opcode = right.request.opcode ∧ m = n) :=
  (Field.unambiguous_number_apply ProtocolVersion.number_injective ProtocolVersion.number_lt
    left.version right.version).concat_cons fun _ =>
  (Field.unambiguous_number (headerFlags_lt left) (headerFlags_lt right)).concat_cons fun _ =>
  (Field.unambiguous_int16 left.stream right.stream).concat_cons fun _ =>
  (Field.unambiguous_uint8 Nat.one_pos left.request.opcode right.request.opcode).concat_cons
    fun _ => (Field.unambiguous_length .frameBody m n).concat_singleton

/-- What follows the header tells the custom payload, if it is written, and the request. -/
theorem unambiguous_encodeBody (hl : left.request.IsPaired) (hr : right.request.IsPaired)
    (hversion : left.version = right.version)
    (hpayload : left.writesPayload features = right.writesPayload features)
    (hopcode : left.request.opcode = right.request.opcode) :
    Unambiguous (left.encodeBody features) (right.encodeBody features)
      ((left.writesPayload features → left.customPayload = right.customPayload) ∧
        left.request.SameOnWire left.version right.request) := by
  refine (Field.unambiguous_onlyIf hpayload
    (Field.unambiguous_bytesMap _ _)).concat_cons fun _ => ?_
  rw [← hversion]
  exact (Request.unambiguous_encode left.version hl hr hopcode).concat_singleton

/-- A payload that is not written is empty or not supported. -/
theorem customPayload_eq_of_writesPayload_eq (hversion : left.version = right.version)
    (hwrites : left.writesPayload features = right.writesPayload features)
    (hpayload : left.writesPayload features → left.customPayload = right.customPayload)
    (hsupported : features left.version .customPayload) :
    left.customPayload = right.customPayload := by
  have hleft : left.writesPayload features = !left.customPayload.isEmpty := by
    rw [writesPayload, hsupported, Bool.and_true]
  have hright : right.writesPayload features = !right.customPayload.isEmpty := by
    rw [writesPayload, ← hversion, hsupported, Bool.and_true]
  -- A payload that is there is told by the body, an empty one by the flag alone.
  cases hempty : left.customPayload.isEmpty with
  | false => exact hpayload (by rw [hleft, hempty]; rfl)
  | true =>
    have hempty' : right.customPayload.isEmpty := by
      rw [hleft, hright, hempty] at hwrites
      simpa using hwrites.symm
    rw [Std.ExtTreeMap.isEmpty_iff.mp hempty, Std.ExtTreeMap.isEmpty_iff.mp hempty']

theorem unambiguous_encode (hl : left.request.IsPaired) (hr : right.request.IsPaired) :
    Unambiguous (left.encode features) (right.encode features)
      (left.SameOnWire features right) := by
  intro b c s t hb hc hst
  obtain ⟨body, header, hbody, hheader, rfl⟩ := encode_eq_ok_iff.mp hb
  obtain ⟨body', header', hbody', hheader', rfl⟩ := encode_eq_ok_iff.mp hc
  rw [List.append_assoc, List.append_assoc] at hst
  -- The header tells how the body is to be read: its version, its payload and its kind.
  obtain ⟨⟨hversion, hflags, hstream, hopcode, -⟩, hst⟩ :=
    unambiguous_encodeHeader body.length body'.length hheader hheader' hst
  obtain ⟨htracing, hwrites⟩ := eq_of_headerFlags_eq hflags
  obtain ⟨⟨hpayload, hrequest⟩, hst⟩ :=
    unambiguous_encodeBody hl hr hversion hwrites hopcode hbody hbody' hst
  have hcustom := customPayload_eq_of_writesPayload_eq hversion hwrites hpayload
  exact ⟨⟨hversion, hstream, htracing, hcustom, hrequest⟩, hst⟩

theorem SameOnWire.writesPayload_eq (h : left.SameOnWire features right) :
    left.writesPayload features = right.writesPayload features := by
  unfold writesPayload
  rw [← h.version]
  cases hsupported : features left.version .customPayload with
  | true => rw [h.customPayload hsupported]
  | false => rw [Bool.and_false, Bool.and_false]

theorem SameOnWire.encodeBody_eq (h : left.SameOnWire features right) :
    left.encodeBody features = right.encodeBody features := by
  have hfield : Field.onlyIf (left.writesPayload features) (Field.bytesMap left.customPayload)
      = Field.onlyIf (right.writesPayload features) (Field.bytesMap right.customPayload) := by
    rw [← h.writesPayload_eq]
    cases hwrites : left.writesPayload features with
    | true => rw [h.customPayload (Bool.and_eq_true_iff.mp hwrites).2]
    | false => rfl
  unfold encodeBody
  rw [hfield, ← h.version, h.request.encode_eq]

theorem SameOnWire.encode_eq (h : left.SameOnWire features right) :
    left.encode features = right.encode features := by
  have hheader : left.encodeHeader features = right.encodeHeader features := by
    funext n
    unfold encodeHeader headerFlags
    rw [h.version, h.tracing, h.writesPayload_eq, h.stream, h.request.opcode_eq]
  unfold encode
  rw [h.encodeBody_eq, hheader]

/-- **Frames are uniquely decodable, and tell where they end.**  If a byte string starts with both
of two frames, then they are the same up to what the wire does not carry, and the same bytes follow
them.  Frames that are the same up to that are written alike. -/
theorem encode_append_inj (hl : left.request.IsPaired) (hr : right.request.IsPaired) :
    (∀ b c s t : Bytes, left.encode features = .ok b → right.encode features = .ok c →
      b ++ s = c ++ t → left.SameOnWire features right ∧ s = t) ∧
    (left.SameOnWire features right → left.encode features = right.encode features) :=
  ⟨fun _ _ _ _ hb hc hst => unambiguous_encode hl hr hb hc hst, SameOnWire.encode_eq⟩

/-- Two batches, one with a custom payload that version 3 does not write, each with one more byte
behind it. -/
theorem encode_append_inj_of_payload_not_written :
    let right : Frame :=
      { version := .v3
        stream := 1
        request := .batch {
          kind := 0
          entries := [.query "q", .prepared [9]]
          values := [[.null], []] } }
    let left : Frame := { right with customPayload := (∅ : CustomPayload).insert "k" [1] }
    let bytes : Bytes :=
      [3, 0, 0, 1, 13, 0, 0, 0, 24,
        0, 0, 2, 0, 0, 0, 0, 1, 113, 0, 1, 255, 255, 255, 255, 1, 0, 1, 9, 0, 0, 0, 1, 0]
    left.request.IsPaired ∧ right.request.IsPaired ∧
      left.encode .standard = .ok bytes ∧ right.encode .standard = .ok bytes ∧
      left.SameOnWire .standard right ∧ left.customPayload ≠ right.customPayload := by
  intro right left bytes
  have hb : left.encode .standard = .ok bytes := by decide
  have hc : right.encode .standard = .ok bytes := by decide
  have hinj := @encode_append_inj .standard left right rfl rfl
  have hsame := (hinj.1 bytes bytes [7] [7] hb hc rfl).1
  have hne : left.customPayload ≠ right.customPayload := by
    intro h
    exact absurd (congrArg Std.ExtTreeMap.size h) (by decide)
  exact ⟨rfl, rfl, hb, hc, hsame, hne⟩

end Frame

end CqlWire
