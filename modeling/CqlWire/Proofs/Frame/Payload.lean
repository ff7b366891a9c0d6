import CqlWire.Proofs.Field.Counted
import CqlWire.Proofs.Frame.Steps
import CqlWire.Proofs.LastGiven
import CqlWire.Proofs.Text.Order
import CqlWire.Statement.Attributes
import Mathlib.Data.Finset.Card

/-!
# The custom payload of a frame

Entries to send along are given one after the other, and an entry replaces another one of its key.
What is sent is told by the content that each key has in the end, not by how it came about: the
entries are written by the bytes of their keys (`CustomPayload.pairwise_ofString_toList`), each key
once (`CustomPayload.length_toList_after`).  They stand between the header and the request, and the
header tells whether they are there (`Frame.exists_parts_of_encode`).

`Frame.payload_of_calls` follows them from the calls to the bytes.
-/

namespace CqlWire

/-! ### Entries by their keys -/

namespace CustomPayload

/-- The content of a key after entries were given: that of its last entry, or else the one that the
payload had before. -/
def contentAfter? (payload : CustomPayload) (calls : List (String × Bytes)) (key : String) :
    Option Bytes :=
  (lastOf? calls key).or payload[key]?

/-- The keys of the payload and of the entries, as often as they were given. -/
def keysAfter (payload : CustomPayload) (calls : List (String × Bytes)) : List String :=
  payload.keys ++ calls.map (·.1)

variable {payload other : CustomPayload} {calls calls' : List (String × Bytes)} {key : String}
  {content : Bytes}

theorem mem_toList_after :
    (key, content) ∈ (payload.after calls).toList ↔
      payload.contentAfter? calls key = some content := by
  rw [Std.ExtTreeMap.mem_toList_iff_getElem?_eq_some, getElem?_after, contentAfter?]

/-- The same contents in the end are the same payload. -/
theorem after_eq_of_contentAfter?_eq
    (h : ∀ key, other.contentAfter? calls' key = payload.contentAfter? calls key) :
    other.after calls' = payload.after calls := by
  refine Std.ExtTreeMap.ext_getElem? fun key => ?_
  rw [getElem?_after, getElem?_after]
  exact h key

theorem exists_contentAfter?_eq_some_iff :
    (∃ content, payload.contentAfter? calls key = some content) ↔
      key ∈ payload.keysAfter calls := by
  have hbefore : payload[key]? = none ↔ key ∉ payload.keys := by
    rw [Std.ExtTreeMap.mem_keys, Std.ExtTreeMap.mem_iff_isSome_getElem?,
      Option.not_isSome_iff_eq_none]
  have hnone : payload.contentAfter? calls key = none ↔ key ∉ payload.keysAfter calls := by
    rw [contentAfter?, Option.or_eq_none_iff, lastOf?_eq_none_iff, hbefore, keysAfter,
      List.mem_append, not_or, and_comm]
  rw [← Option.ne_none_iff_exists', ne_eq, hnone, not_not]

/-- The entries stand in the order of the bytes of their keys. -/
theorem pairwise_ofString_toList (payload : CustomPayload) :
    payload.toList.Pairwise fun entry later =>
      Bytes.ofString entry.1 < Bytes.ofString later.1 := by
  refine payload.ordered_keys_toList.imp fun {entry later} hless => ?_
  have hlt : entry.1 < later.1 := compareOfLessAndEq_eq_lt.mp hless
  exact Bytes.ofString_lt_ofString hlt

/-- There are as many entries as different keys. -/
theorem length_toList_after (payload : CustomPayload) (calls : List (String × Bytes)) :
    (payload.after calls).toList.length = (payload.keysAfter calls).toFinset.card := by
  have hnodup : ((payload.after calls).toList.map (·.1)).Nodup := by
    refine List.pairwise_map.mpr ((payload.after calls).distinct_keys_toList.imp ?_)
    intro entry later hdistinct hsame
    exact hdistinct (by rw [hsame, Std.LawfulEqCmp.compare_eq_iff_eq])
  have hsame : ((payload.after calls).toList.map (·.1)).toFinset
      = (payload.keysAfter calls).toFinset := by
    ext key
    rw [List.mem_toFinset, List.mem_toFinset, ← exists_contentAfter?_eq_some_iff, List.mem_map]
    constructor
    · rintro ⟨⟨_, content⟩, hmem, rfl⟩
      exact ⟨content, mem_toList_after.mp hmem⟩
    · rintro ⟨content, hlast⟩
      exact ⟨(key, content), mem_toList_after.mpr hlast, rfl⟩
  -- No key is there twice, so the entries are as many as their keys are different.
  rw [← hsame, List.toFinset_card_of_nodup hnodup, List.length_map]

theorem isEmpty_after_iff : (payload.after calls).isEmpty ↔ payload.keysAfter calls = [] := by
  rw [← Std.ExtTreeMap.isEmpty_toList, List.isEmpty_iff, ← List.length_eq_zero_iff,
    length_toList_after, Finset.card_eq_zero, List.toFinset_eq_empty_iff]

end CustomPayload

namespace Attributes

/-- The attributes after entries to send along were given one after the other. -/
def withAllPayload (attributes : Attributes) (calls : List (String × Bytes)) : Attributes :=
  calls.foldl (fun attributes call => attributes.withCustomPayload call.1 call.2) attributes

theorem customPayload_withAllPayload (attributes : Attributes) (calls : List (String × Bytes)) :
    (attributes.withAllPayload calls).customPayload = attributes.customPayload.after calls := by
  induction calls generalizing attributes with
  | nil => rfl
  | cons call calls ih => exact ih (attributes.withCustomPayload call.1 call.2)

end Attributes

/-! ### Their place in a frame -/

namespace Frame

variable {features : FeatureTable} {frame : Frame} {bytes payload : Bytes}

/-- The flag for the payload is set exactly if the payload is written. -/
theorem headerFlags_and_ne_zero_iff :
    UInt8.ofNat (frame.headerFlags features) &&& 4 ≠ 0 ↔ frame.writesPayload features := by
  unfold headerFlags
  cases frame.tracing <;> cases frame.writesPayload features <;> decide

/-- Nine bytes of header, then the payload, then the request. -/
theorem exists_parts_of_encode (h : frame.encode features = .ok bytes) :
    ∃ header payload request, bytes = header ++ payload ++ request ∧ header.length = 9 ∧
      header[1]? = some (UInt8.ofNat (frame.headerFlags features)) ∧
      Field.onlyIf (frame.writesPayload features) (Field.bytesMap frame.customPayload)
        = .ok payload ∧
      frame.request.encode frame.version = .ok request := by
  obtain ⟨body, header, hbody, hheader, rfl⟩ := encode_eq_ok_iff.mp h
  have hsize : body.length = frame.bodySize features := frame.hasSize_encodeBody features hbody
  -- The header is written for the length of the body, which is known from the sizes of its fields.
  rw [hsize] at hheader
  obtain ⟨-, rfl⟩ := (frame.writtenBy_encodeHeader features).eq_ok_iff.mp hheader
  obtain ⟨payload, request, hpayload, hrequest, rfl⟩ := Encoded.concat_cons_eq_ok_iff.mp hbody
  rw [Encoded.concat_singleton] at hrequest
  refine ⟨_, payload, request, (List.append_assoc ..).symm, ?_, ?_, hpayload, hrequest⟩
  · simp only [headerSteps, List.flatMap_cons, List.flatMap_nil, List.length_append,
      List.length_nil, WriteStep.bytes, Bytes.length_bigEndian]
    rfl
  · simp only [headerSteps, List.flatMap_cons, WriteStep.bytes, Bytes.bigEndian, Nat.pow_eq,
      Nat.pow_zero, Nat.div_one, List.cons_append, List.nil_append]
    rfl

/-- A payload that is written is its entries behind their number. -/
theorem isCounted_of_writesPayload (hwrites : frame.writesPayload features)
    (h : Field.onlyIf (frame.writesPayload features) (Field.bytesMap frame.customPayload)
      = .ok payload) : Field.IsCounted Field.entryForm frame.customPayload.toList payload := by
  rw [hwrites] at h
  exact Field.isCounted_of_bytesMap h

/-- A payload that is written takes bytes, if only for the number of its entries. -/
theorem ne_nil_iff_writesPayload
    (h : Field.onlyIf (frame.writesPayload features) (Field.bytesMap frame.customPayload)
      = .ok payload) : payload ≠ [] ↔ frame.writesPayload features := by
  constructor
  · intro hne
    by_contra hnone
    rw [Bool.not_eq_true] at hnone
    rw [hnone] at h
    exact hne (Except.ok.inj h).symm
  · intro hwrites
    rw [(isCounted_of_writesPayload hwrites h).2]
    exact List.cons_ne_nil _ _

/-- The frame with another custom payload. -/
def carrying (frame : Frame) (payload : CustomPayload) : Frame :=
  { frame with customPayload := payload }

/-- A frame whose version has no custom payloads is written as if there were none. -/
theorem encode_carrying_of_unsupported (payload : CustomPayload)
    (h : features frame.version .customPayload = false) :
    (frame.carrying payload).encode features = (frame.carrying ∅).encode features := by
  have hnone (payload : CustomPayload) :
      (frame.carrying payload).writesPayload features = false := by
    rw [writesPayload, carrying, h, Bool.and_false]
  have hflags : (frame.carrying payload).headerFlags features
      = (frame.carrying ∅).headerFlags features := by
    rw [headerFlags, headerFlags, hnone, hnone]
    rfl
  have hbody : (frame.carrying payload).encodeBody features
      = (frame.carrying ∅).encodeBody features := by
    rw [encodeBody, encodeBody, hnone, hnone]
    rfl
  have hheader (length : Nat) : (frame.carrying payload).encodeHeader features length
      = (frame.carrying ∅).encodeHeader features length := by
    rw [encodeHeader, encodeHeader, hflags]
    rfl
  rw [encode, encode, hbody]
  simp only [hheader]

/-- **A custom payload is written as its keys and their contents, whatever the calls that gave
them.**  If other calls give the same content to each key in the end, the frame is written as the
same bytes, or refused with the same error.  In a version that has no custom payloads, each frame is
written like the one without a payload.  The payload stands behind the nine bytes of the header, and
a flag of the header is set exactly if it is there; it is there if a key was given and the version
has custom payloads.  It tells the number of different keys, and then the entry of each of them with
the content that the key has in the end, in increasing order of the bytes of the keys. -/
theorem payload_of_calls (features : FeatureTable) (frame : Frame) (attributes : Attributes)
    (calls : List (String × Bytes)) :
    let before := attributes.customPayload
    let sent := frame.carrying (attributes.withAllPayload calls).customPayload
    (∀ (attributes' : Attributes) (calls' : List (String × Bytes)),
      (∀ key, attributes'.customPayload.contentAfter? calls' key = before.contentAfter? calls key) →
      (frame.carrying (attributes'.withAllPayload calls').customPayload).encode features
        = sent.encode features) ∧
    (features frame.version .customPayload = false → ∀ payload : CustomPayload,
      (frame.carrying payload).encode features = (frame.carrying ∅).encode features) ∧
    ∀ bytes, sent.encode features = .ok bytes →
      ∃ header payload request, bytes = header ++ payload ++ request ∧ header.length = 9 ∧
        frame.request.encode frame.version = .ok request ∧
        (payload ≠ [] ↔ before.keysAfter calls ≠ [] ∧ features frame.version .customPayload) ∧
        (∃ flags, header[1]? = some flags ∧ (flags &&& 4 ≠ 0 ↔ payload ≠ [])) ∧
        (payload ≠ [] → ∃ entries, Field.IsCounted Field.entryForm entries payload ∧
          entries.length = (before.keysAfter calls).toFinset.card ∧
          (entries.Pairwise fun entry later =>
            Bytes.ofString entry.1 < Bytes.ofString later.1) ∧
          ∀ key content, (key, content) ∈ entries ↔
            before.contentAfter? calls key = some content) := by
  intro before sent
  have hsent : sent.customPayload = before.after calls :=
    attributes.customPayload_withAllPayload calls
  have hwrites : sent.writesPayload features ↔
      before.keysAfter calls ≠ [] ∧ features frame.version .customPayload := by
    rw [writesPayload, Bool.and_eq_true, Bool.not_eq_true', Bool.eq_false_iff, hsent]
    exact and_congr_left' (not_congr CustomPayload.isEmpty_after_iff)
  refine ⟨fun attributes' calls' hsame => ?_, fun hnone payload => ?_, fun bytes hencode => ?_⟩
  · -- The frames are the same, since their payloads are.
    rw [Attributes.customPayload_withAllPayload, CustomPayload.after_eq_of_contentAfter?_eq hsame,
      ← hsent]
    rfl
  · exact encode_carrying_of_unsupported payload hnone
  · obtain ⟨header, payload, request, hbytes, hlength, hflags, hpayload, hrequest⟩ :=
      exists_parts_of_encode hencode
    have hne : payload ≠ [] ↔ sent.writesPayload features := ne_nil_iff_writesPayload hpayload
    refine ⟨header, payload, request, hbytes, hlength, hrequest, hne.trans hwrites,
      ⟨_, hflags, headerFlags_and_ne_zero_iff.trans hne.symm⟩, fun hwritten => ?_⟩
    have hcounted := isCounted_of_writesPayload (hne.mp hwritten) hpayload
    rw [hsent] at hcounted
    exact ⟨_, hcounted, CustomPayload.length_toList_after before calls,
      CustomPayload.pairwise_ofString_toList _, fun key content => CustomPayload.mem_toList_after⟩

/-- A key that is given twice is sent once, with its last content, behind a key of smaller bytes
that was given later; calls in the other order send the same, and version 3 sends no payload. -/
theorem payload_of_calls_of_repeatedKey :
    let calls : List (String × Bytes) := [("é", [1]), ("z", [2]), ("é", [3])]
    let other : List (String × Bytes) := [("z", [2]), ("é", [3])]
    let frame (version : ProtocolVersion) : Frame :=
      { version, request := .query { query := "q", options := {} } }
    let send (version : ProtocolVersion) (calls : List (String × Bytes)) : Encoded :=
      ((frame version).carrying (Attributes.withAllPayload {} calls).customPayload).encode .standard
    send .v4 other = send .v4 calls ∧ send .v3 calls = send .v3 [] ∧
    ∃ bytes header request : Bytes, send .v4 calls = .ok bytes ∧ header.length = 9 ∧
      bytes = header ++ [0, 2, 0, 1, 122, 0, 0, 0, 1, 2, 0, 2, 195, 169, 0, 0, 0, 1, 3]
        ++ request := by
  intro calls other frame send
  obtain ⟨hsame, -, hparts⟩ := payload_of_calls .standard (frame .v4) {} calls
  obtain ⟨-, hnone, -⟩ := payload_of_calls .standard (frame .v3) {} calls
  have hlast (key : String) : lastOf? other key = lastOf? calls key := by
    simp only [calls, other, lastOf?, lastGiven?, valueFor?, List.reverse_cons, List.reverse_nil,
      List.nil_append, List.cons_append, List.findSome?_cons, List.findSome?_nil]
    split_ifs <;> rfl
  obtain ⟨bytes, hbytes⟩ : ∃ bytes, send .v4 calls = .ok bytes := ⟨_, rfl⟩
  obtain ⟨header, payload, request, hwhole, hheader, -, hpayload, -, hentries⟩ :=
    hparts bytes hbytes
  have hne : payload ≠ [] := hpayload.mpr ⟨List.cons_ne_nil _ _, rfl⟩
  obtain ⟨entries, hcounted, hnumber, hsorted, hmem⟩ := hentries hne
  have hearly : ("z", [2]) ∈ entries := (hmem "z" [2]).mpr rfl
  have hlate : ("é", [3]) ∈ entries := (hmem "é" [3]).mpr rfl
  have htwo : entries = [("z", [2]), ("é", [3])] := by
    have hlength : entries.length = 2 := by
      rw [hnumber]
      decide
    obtain ⟨first, second, rfl⟩ := List.length_eq_two.mp hlength
    have hless := List.rel_of_pairwise_cons hsorted (List.mem_singleton.mpr rfl)
    rw [List.mem_pair] at hearly hlate
    rcases hlate with rfl | rfl
    · rcases hearly with hearly | rfl
      · exact absurd hearly (by decide)
      · exact absurd hless (by decide)
    · rcases hearly with rfl | hearly
      · rfl
      · exact absurd hearly (by decide)
  have hwritten : payload = [0, 2, 0, 1, 122, 0, 0, 0, 1, 2, 0, 2, 195, 169, 0, 0, 0, 1, 3] := by
    rw [hcounted.2, htwo]
    decide
  rw [hwritten] at hwhole
  exact ⟨hsame {} other fun key => congrArg (Option.or · none) (hlast key), hnone rfl _, bytes,
    header, request, hbytes, hheader, hwhole⟩

end Frame

end CqlWire
