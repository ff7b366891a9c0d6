import CqlWire.Proofs.Bytes
import CqlWire.Proofs.Frame.Failure
import CqlWire.Proofs.Frame.Size

/-!
# The timestamp of a frame

Whatever a request does, its last two fields are its timestamp and its keyspace
(`Request.exists_layout_eq_append`).  A timestamp takes eight bytes, from which it can be read back,
and none at all where it is left to the server; `Frame.timestamp_of_encode` says so for the piece of
the frame that belongs to it.
-/

namespace CqlWire

/-- The time of the write that a request carries. -/
def Request.timestamp : Request → Timestamp
  | query request => request.options.timestamp
  | execute request => request.options.timestamp
  | batch request => request.timestamp

/-! ### The field -/

namespace Field

theorem timestamp_unset : timestamp Timestamp.unset = .ok [] := rfl

/-- A timestamp that is not left to the server is read back from its eight bytes. -/
theorem exists_timestamp_eq_ok {time : Timestamp} (h : time ≠ Timestamp.unset) :
    ∃ stamp, timestamp time = .ok stamp ∧ stamp.length = 8 ∧ stamp.toInt = time.toInt := by
  have hwrites : writesTimestamp time = true := bne_iff_ne.mpr h
  refine ⟨Bytes.bigEndian 8 time.toUInt64.toNat, ?_, Bytes.length_bigEndian _ _,
    Bytes.toInt_bigEndian_toNat 8 time.toBitVec⟩
  rw [timestamp, hwrites]
  rfl

end Field

/-! ### Its place -/

/-- The last two fields of a request are its timestamp and its keyspace. -/
theorem Request.exists_layout_eq_append (version : ProtocolVersion) (request : Request) :
    ∃ fields, request.layout version
      = fields ++ [(.other, Field.timestamp request.timestamp),
          (.other, Field.optional Field.string request.keyspace?)] := by
  cases request with
  | query request => exact ⟨[_, _, _, _, _, _, _], rfl⟩
  | execute request => exact ⟨[_, _, _, _, _, _, _, _], rfl⟩
  | batch request =>
    -- The options of a batch stand in one list behind its children.
    obtain ⟨children, hchildren⟩ : ∃ children, (batch request).layout version
        = children ++ ([(.other, Field.number 2 request.consistency.toNat),
            (.other, request.flags.encode version),
            (.other, Field.serialConsistency request.serialConsistency)]
          ++ [(.other, Field.timestamp request.timestamp),
            (.other, Field.optional Field.string request.keyspace)]) := ⟨_, rfl⟩
    rw [hchildren, ← List.append_assoc]
    exact ⟨_, rfl⟩

/-- Fields in two groups are written group by group. -/
theorem FramePart.writeFields_append_eq_ok_iff {fields fields' : List (FramePart × Encoded)}
    {pieces : List (FramePart × Bytes)} :
    writeFields (fields ++ fields') = .ok pieces ↔
      ∃ front back, writeFields fields = .ok front ∧ writeFields fields' = .ok back ∧
        pieces = front ++ back := by
  induction fields generalizing pieces with
  | nil =>
    constructor
    · exact fun h => ⟨[], pieces, rfl, h, rfl⟩
    · rintro ⟨front, back, hfront, hback, rfl⟩
      rw [← Except.ok.inj hfront]
      exact hback
  | cons head fields ih =>
    obtain ⟨part, field⟩ := head
    simp only [List.cons_append, writeFields_cons_eq_ok_iff, ih]
    constructor
    · rintro ⟨first, _, hfirst, ⟨front, back, hfront, hback, rfl⟩, rfl⟩
      exact ⟨(part, first) :: front, back, ⟨first, front, hfirst, hfront, rfl⟩, hback, rfl⟩
    · rintro ⟨_, back, ⟨first, front, hfirst, hfront, rfl⟩, hback, rfl⟩
      exact ⟨first, front ++ back, hfirst, ⟨front, back, hfront, hback, rfl⟩, rfl⟩

namespace Frame

variable {features : FeatureTable} {frame : Frame}

/-- The last two pieces of a frame are its timestamp and its keyspace. -/
theorem exists_of_write_eq_ok {pieces : List (FramePart × Bytes)}
    (h : frame.write features = .ok pieces) :
    ∃ front stamp keyspace, pieces = front ++ [(.other, stamp), (.other, keyspace)] ∧
      Field.timestamp frame.request.timestamp = .ok stamp ∧
      Field.optional Field.string frame.request.keyspace? = .ok keyspace := by
  obtain ⟨fields, hfields⟩ := frame.request.exists_layout_eq_append frame.version
  rw [write, layout, hfields, ← List.cons_append, ← List.cons_append] at h
  obtain ⟨front, back, -, hback, rfl⟩ := FramePart.writeFields_append_eq_ok_iff.mp h
  obtain ⟨stamp, rest, hstamp, hrest, rfl⟩ := FramePart.writeFields_cons_eq_ok_iff.mp hback
  obtain ⟨keyspace, last, hkeyspace, hlast, rfl⟩ := FramePart.writeFields_cons_eq_ok_iff.mp hrest
  obtain rfl := Except.ok.inj hlast
  exact ⟨front, stamp, keyspace, rfl, hstamp, hkeyspace⟩

/-- **A frame has a timestamp of eight bytes exactly if its request carries a timestamp**, which can
be read back from them.  Otherwise nothing is written in its place. -/
theorem timestamp_of_encode {bytes : Bytes} (h : frame.encode features = .ok bytes) :
    ∃ front stamp keyspace,
      frame.write features = .ok (front ++ [(.other, stamp), (.other, keyspace)]) ∧
      bytes = front.flatMap (·.2) ++ stamp ++ keyspace ∧
      Field.optional Field.string frame.request.keyspace? = .ok keyspace ∧
      (stamp.length = 8 ↔ frame.request.timestamp ≠ Timestamp.unset) ∧
      (stamp = [] ↔ frame.request.timestamp = Timestamp.unset) ∧
      (frame.request.timestamp ≠ Timestamp.unset →
        stamp.toInt = frame.request.timestamp.toInt) := by
  rw [encode_eq_write] at h
  obtain ⟨pieces, hpieces, h⟩ := bind_eq_ok_iff.mp h
  obtain rfl := Except.ok.inj h
  obtain ⟨front, stamp, keyspace, rfl, hstamp, hkeyspace⟩ := exists_of_write_eq_ok hpieces
  refine ⟨front, stamp, keyspace, hpieces, by simp, hkeyspace, ?_⟩
  by_cases hunset : frame.request.timestamp = Timestamp.unset
  · rw [hunset, Field.timestamp_unset] at hstamp
    obtain rfl := Except.ok.inj hstamp
    simp [hunset]
  · obtain ⟨written, hwritten, hlength, hread⟩ := Field.exists_timestamp_eq_ok hunset
    obtain rfl := Except.ok.inj (hwritten.symm.trans hstamp)
    have hne : written ≠ [] := by
      rintro rfl
      exact absurd hlength (by decide)
    exact ⟨iff_of_true hlength hunset, iff_of_false hne hunset, fun _ => hread⟩

end Frame

end CqlWire
