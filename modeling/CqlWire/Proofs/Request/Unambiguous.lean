import CqlWire.Proofs.Field.Unambiguous
import CqlWire.Proofs.Request.Flags

/-!
# Requests that tell their content

A request tells where it ends and what it was made of, whatever bytes follow it, where its version
and its kind are known (`Request.unambiguous_encode`).  It does so up to what is not written
(`Request.SameOnWire`), and requests that differ in nothing else are written alike
(`Request.SameOnWire.encode_eq`).

The proof follows the layout: each field is unambiguous, and the flags, which are read first,
announce the optional fields behind them.
-/

namespace CqlWire

/-! ### What the wire does not carry -/

/-- Blocks of values that are written alike: they are equal or have no values. -/
def BoundValues.SameOnWire (left right : BoundValues) : Prop :=
  left = right ∨ (left.isEmpty ∧ right.isEmpty)

/-- Options that are written alike. -/
structure QueryParameters.SameOnWire (left right : QueryParameters) : Prop where
  consistency : left.consistency = right.consistency
  values : left.values.SameOnWire right.values
  skipMetadata : left.skipMetadata = right.skipMetadata
  /-- A page size that is not positive stands for no paging. -/
  pageSize : left.pageSize = right.pageSize ∨ (left.pageSize ≤ 0 ∧ right.pageSize ≤ 0)
  pagingState : left.pagingState = right.pagingState
  serialConsistency : left.serialConsistency = right.serialConsistency
  timestamp : left.timestamp = right.timestamp
  keyspace : left.keyspace = right.keyspace

/-- Requests that a version writes alike. -/
def Request.SameOnWire (version : ProtocolVersion) : Request → Request → Prop
  | query left, query right => left.query = right.query ∧ left.options.SameOnWire right.options
  | execute left, execute right =>
    left.id = right.id ∧
      (version.sendsResultMetadataId →
        left.resultMetadataId.getD [] = right.resultMetadataId.getD []) ∧
      left.options.SameOnWire right.options
  | batch left, batch right => left = right
  | _, _ => False

/-- A batch has one list of values for each child. -/
def Request.IsPaired : Request → Prop
  | batch request => request.entries.length = request.values.length
  | _ => True

/-! ### Flags and the parts that they announce -/

theorem RequestFlags.unambiguous_encode (version : ProtocolVersion) (flags flags' : RequestFlags) :
    Unambiguous (encode version flags) (encode version flags') (flags = flags') := by
  intro b c s t hb hc hst
  unfold encode at hb hc
  split_ifs at hb hc
  · exact Field.unambiguous_uint8 (by decide) flags flags' hb hc hst
  · exact Field.unambiguous_uint8 (by decide) flags flags' hb hc hst

/-- A field that is left out for the usual content tells its content where it is known whether it
is there. -/
theorem Field.unambiguous_unlessUsual {α : Type} [BEq α] [LawfulBEq α] (usual : α)
    {left right : Encoded} {x y : α} (heq : (x != usual) = (y != usual))
    (h : Unambiguous left right (x = y)) :
    Unambiguous (onlyIf (x != usual) left) (onlyIf (y != usual) right) (x = y) := by
  refine (unambiguous_onlyIf heq h).imp fun himp => ?_
  by_cases hx : x = usual
  · have hy : y = usual := by simpa [hx] using heq
    rw [hx, hy]
  · exact himp (by simpa using hx)

theorem Field.unambiguous_serialConsistency {x y : UInt16}
    (heq : writesSerialConsistency x = writesSerialConsistency y) :
    Unambiguous (serialConsistency x) (serialConsistency y) (x = y) :=
  unambiguous_unlessUsual Consistency.serial.code heq (unambiguous_uint16 x y)

theorem Field.unambiguous_timestamp {x y : Timestamp}
    (heq : writesTimestamp x = writesTimestamp y) :
    Unambiguous (timestamp x) (timestamp y) (x = y) :=
  unambiguous_unlessUsual Timestamp.unset heq (unambiguous_int64 x y)

namespace BoundValues

theorem encode_of_isEmpty {values : BoundValues} (h : values.isEmpty) (version : ProtocolVersion) :
    values.encode version = .ok [] := by
  rcases values with _ | (_ | ⟨x, xs⟩) | (_ | ⟨x, xs⟩)
  · rfl
  · rfl
  · exact absurd h nofun
  · rfl
  · exact absurd h nofun

theorem SameOnWire.isEmpty_eq {left right : BoundValues} (h : left.SameOnWire right) :
    left.isEmpty = right.isEmpty := by
  rcases h with rfl | ⟨hl, hr⟩
  · rfl
  · rw [hl, hr]

theorem SameOnWire.encode_eq {left right : BoundValues} (h : left.SameOnWire right)
    (version : ProtocolVersion) : left.encode version = right.encode version := by
  rcases h with rfl | ⟨hl, hr⟩
  · rfl
  · rw [encode_of_isEmpty hl, encode_of_isEmpty hr]

/-- A block that is written holds positional or named values. -/
theorem encode_of_not_isEmpty {values : BoundValues} (h : values.isEmpty = false)
    (version : ProtocolVersion) :
    (∃ xs, values = positional xs ∧
      values.encode version = Field.positionalValues version xs) ∨
    (∃ xs, values = named xs ∧ values.encode version = Field.namedValues version xs) := by
  rcases values with _ | (_ | ⟨x, xs⟩) | (_ | ⟨x, xs⟩)
  · exact absurd h (by decide)
  · exact absurd h (by decide)
  · exact Or.inl ⟨x :: xs, rfl, rfl⟩
  · exact absurd h (by decide)
  · exact Or.inr ⟨x :: xs, rfl, rfl⟩

/-- Where it is known whether there are values and whether they have names, the block of values
tells them. -/
theorem unambiguous_encode (version : ProtocolVersion) {left right : BoundValues}
    (hempty : left.isEmpty = right.isEmpty)
    (hnamed : (!left.isEmpty && left.isNamed) = (!right.isEmpty && right.isNamed)) :
    Unambiguous (left.encode version) (right.encode version) (left.SameOnWire right) := by
  cases hl : left.isEmpty with
  | true =>
    have hr : right.isEmpty := by rw [← hempty, hl]
    rw [encode_of_isEmpty hl, encode_of_isEmpty hr]
    exact (Unambiguous.refl _).imp fun _ => Or.inr ⟨hl, hr⟩
  | false =>
    have hr : right.isEmpty = false := by rw [← hempty, hl]
    rw [hl, hr, Bool.not_false, Bool.true_and, Bool.true_and] at hnamed
    obtain ⟨xs, rfl, hx⟩ | ⟨xs, rfl, hx⟩ := encode_of_not_isEmpty hl version <;>
      obtain ⟨ys, rfl, hy⟩ | ⟨ys, rfl, hy⟩ := encode_of_not_isEmpty hr version
    · rw [hx, hy]
      exact (Field.unambiguous_positionalValues version xs ys).imp fun h => Or.inl (by rw [h])
    · exact absurd hnamed nofun
    · exact absurd hnamed nofun
    · rw [hx, hy]
      exact (Field.unambiguous_namedValues version xs ys).imp fun h => Or.inl (by rw [h])

end BoundValues

namespace QueryParameters

/-- The flags are those of the announced parts. -/
theorem flags_eq (options : QueryParameters) :
    options.flags = .ofConditions (
      [.values, .skipMetadata, .pageSize, .pagingState, .serialConsistency, .timestamp,
        .valueNames, .keyspace].map fun flag => (flag, options.announces flag)) := rfl

/-- Where it is known which parts are there, each part behind the flags tells its content. -/
theorem unambiguous_parts (version : ProtocolVersion) {left right : QueryParameters}
    (h : ∀ flag, left.announces flag = right.announces flag) :
    Unambiguous
      (.concat [
        left.values.encode version,
        Field.onlyIf left.isPaged (Field.number 4 left.pageSize.toUInt32.toNat),
        Field.optional Field.bytes left.pagingState,
        Field.serialConsistency left.serialConsistency,
        Field.timestamp left.timestamp,
        Field.optional Field.string left.keyspace])
      (.concat [
        right.values.encode version,
        Field.onlyIf right.isPaged (Field.number 4 right.pageSize.toUInt32.toNat),
        Field.optional Field.bytes right.pagingState,
        Field.serialConsistency right.serialConsistency,
        Field.timestamp right.timestamp,
        Field.optional Field.string right.keyspace])
      (left.values.SameOnWire right.values ∧ (left.isPaged → left.pageSize = right.pageSize) ∧
        left.pagingState = right.pagingState ∧
        left.serialConsistency = right.serialConsistency ∧ left.timestamp = right.timestamp ∧
        left.keyspace = right.keyspace) := by
  -- The flags of names and of values together tell the kind of the block.
  have hempty : left.values.isEmpty = right.values.isEmpty := Bool.not_inj (h .values)
  refine (BoundValues.unambiguous_encode version hempty (h .valueNames)).concat_cons fun _ => ?_
  refine (Field.unambiguous_onlyIf (h .pageSize)
    (Field.unambiguous_int32 left.pageSize right.pageSize)).concat_cons fun _ => ?_
  refine (Field.unambiguous_optional Field.unambiguous_bytes
    (h .pagingState)).concat_cons fun _ => ?_
  refine (Field.unambiguous_serialConsistency (h .serialConsistency)).concat_cons fun _ => ?_
  refine (Field.unambiguous_timestamp (h .timestamp)).concat_cons fun _ => ?_
  exact (Field.unambiguous_optional Field.unambiguous_string (h .keyspace)).concat_singleton

theorem unambiguous_encode (version : ProtocolVersion) (left right : QueryParameters) :
    Unambiguous (left.encode version) (right.encode version) (left.SameOnWire right) := by
  refine ((Field.unambiguous_uint16 _ _).concat_cons fun _ =>
    (RequestFlags.unambiguous_encode version _ _).concat_cons fun hflags =>
      unambiguous_parts version (announces_eq_of_flags_eq hflags)).imp ?_
  rintro ⟨hconsistency, hflags, hvalues, hpage, hpaging, hserial, htimestamp, hkeyspace⟩
  have hann := announces_eq_of_flags_eq hflags
  -- The flag is all that is written of the wish to skip metadata.
  refine ⟨hconsistency, hvalues, hann .skipMetadata, ?_, hpaging, hserial, htimestamp,
    hkeyspace⟩
  cases hpaged : left.isPaged with
  | true => exact Or.inl (hpage hpaged)
  | false =>
    have hpaged' : right.isPaged = false := by
      rw [← hpaged]
      exact (hann .pageSize).symm
    refine Or.inr ⟨?_, ?_⟩
    · exact Int32.not_lt.mp (of_decide_eq_false hpaged)
    · exact Int32.not_lt.mp (of_decide_eq_false hpaged')

theorem SameOnWire.isPaged_eq {left right : QueryParameters} (h : left.SameOnWire right) :
    left.isPaged = right.isPaged := by
  unfold isPaged
  rcases h.pageSize with hpage | ⟨hl, hr⟩
  · rw [hpage]
  · rw [decide_eq_false (Int32.not_lt.mpr hl), decide_eq_false (Int32.not_lt.mpr hr)]

theorem SameOnWire.announces_eq {left right : QueryParameters} (h : left.SameOnWire right)
    (flag : RequestFlag) : left.announces flag = right.announces flag := by
  cases flag <;> simp only [announces]
  case values => rw [h.values.isEmpty_eq]
  case skipMetadata => exact h.skipMetadata
  case pageSize => exact h.isPaged_eq
  case pagingState => rw [h.pagingState]
  case serialConsistency => rw [h.serialConsistency]
  case timestamp => rw [h.timestamp]
  case valueNames =>
    rcases h.values with hvalues | ⟨hl, hr⟩
    · rw [hvalues]
    · rw [hl, hr, Bool.not_true, Bool.false_and, Bool.false_and]
  case keyspace => rw [h.keyspace]

theorem SameOnWire.encode_eq {left right : QueryParameters} (h : left.SameOnWire right)
    (version : ProtocolVersion) : left.encode version = right.encode version := by
  have hflags : left.flags = right.flags := by
    rw [flags_eq, flags_eq, funext h.announces_eq]
  have hpage : Field.onlyIf left.isPaged (Field.number 4 left.pageSize.toUInt32.toNat)
      = Field.onlyIf right.isPaged (Field.number 4 right.pageSize.toUInt32.toNat) := by
    rcases h.pageSize with hpage | ⟨hl, hr⟩
    · rw [h.isPaged_eq, hpage]
    · have hpaged : right.isPaged = false := decide_eq_false (Int32.not_lt.mpr hr)
      rw [h.isPaged_eq, hpaged]
      rfl
  unfold encode
  rw [h.consistency, hflags, h.values.encode_eq, hpage, h.pagingState, h.serialConsistency,
    h.timestamp, h.keyspace]

end QueryParameters

/-! ### Children of a batch -/

/-- The byte in front of a child tells texts from ids. -/
theorem BatchEntry.unambiguous_encode (left right : BatchEntry) :
    Unambiguous left.encode right.encode (left = right) := by
  have htag (m n : Nat) (hm : m < 256 ^ 1) (hn : n < 256 ^ 1) :
      Unambiguous (Field.number 1 m) (Field.number 1 n) (m = n) := Field.unambiguous_number hm hn
  -- Where the bytes differ, there is nothing left to show for what stands behind them.
  have hother {m n : Nat} (hm : m < 256 ^ 1) (hn : n < 256 ^ 1) (hne : m ≠ n)
      (fields fields' : List Encoded) :
      Unambiguous (.concat (Field.number 1 m :: fields)) (.concat (Field.number 1 n :: fields'))
        (left = right) := by
    have hfalse (h : m = n) : Unambiguous (.concat fields) (.concat fields') False :=
      absurd h hne
    exact ((htag m n hm hn).concat_cons hfalse).imp fun h => h.2.elim
  cases left with
  | query text =>
    cases right with
    | query text' =>
      exact ((htag 0 0 (by decide) (by decide)).concat_cons fun _ =>
        (Field.unambiguous_longString text text').concat_singleton).imp fun h => by rw [h.2]
    | prepared id => exact hother (by decide) (by decide) (by decide) _ _
  | prepared id =>
    cases right with
    | query text' => exact hother (by decide) (by decide) (by decide) _ _
    | prepared id' =>
      exact ((htag 1 1 (by decide) (by decide)).concat_cons fun _ =>
        (Field.unambiguous_shortBytes id id').concat_singleton).imp fun h => by rw [h.2]

/-- Lists that are paired one to one are told by their pairs. -/
theorem eq_of_zip_eq {α β : Type} {xs xs' : List α} {ys ys' : List β}
    (hlen : xs.length = ys.length) (hlen' : xs'.length = ys'.length)
    (h : xs.zip ys = xs'.zip ys') : xs = xs' ∧ ys = ys' := by
  have hfst := congrArg (List.map Prod.fst) h
  have hsnd := congrArg (List.map Prod.snd) h
  rw [List.map_fst_zip hlen.le, List.map_fst_zip hlen'.le] at hfst
  rw [List.map_snd_zip hlen.ge, List.map_snd_zip hlen'.ge] at hsnd
  exact ⟨hfst, hsnd⟩

/-- As many children as there are lists of values tell both, where their number is known. -/
theorem BatchRequest.unambiguous_children (version : ProtocolVersion)
    {entries entries' : List BatchEntry} {values values' : List (List EncodedValue)}
    (hl : entries.length = values.length) (hr : entries'.length = values'.length)
    (hlen : entries.length = entries'.length) :
    Unambiguous
      (.concat ((entries.zip values).flatMap fun (entry, values) =>
        [entry.encode, Field.positionalValues version values]))
      (.concat ((entries'.zip values').flatMap fun (entry, values) =>
        [entry.encode, Field.positionalValues version values]))
      (entries = entries' ∧ values = values') := by
  have hchild : ∀ x y : BatchEntry × List EncodedValue,
      Unambiguous (.concat [x.1.encode, Field.positionalValues version x.2])
        (.concat [y.1.encode, Field.positionalValues version y.2]) (x = y) :=
    Field.unambiguous_pair BatchEntry.unambiguous_encode
      (Field.unambiguous_positionalValues version)
  have hzip : (entries.zip values).length = (entries'.zip values').length := by
    rw [List.length_zip, List.length_zip, ← hl, ← hr, hlen]
  rw [Encoded.concat_flatMap, Encoded.concat_flatMap]
  exact (Unambiguous.concat_map hchild hzip).imp (eq_of_zip_eq hl hr)

/-! ### Requests -/

theorem BatchRequest.unambiguous_encode (version : ProtocolVersion) {left right : BatchRequest}
    (hl : left.entries.length = left.values.length)
    (hr : right.entries.length = right.values.length) :
    Unambiguous (left.encode version) (right.encode version) (left = right) := by
  have hparts : left.flags = right.flags → Unambiguous
      (.concat [Field.serialConsistency left.serialConsistency, Field.timestamp left.timestamp,
        Field.optional Field.string left.keyspace])
      (.concat [Field.serialConsistency right.serialConsistency, Field.timestamp right.timestamp,
        Field.optional Field.string right.keyspace])
      (left.serialConsistency = right.serialConsistency ∧ left.timestamp = right.timestamp ∧
        left.keyspace = right.keyspace) := by
    intro hflags
    have h := announces_eq_of_flags_eq hflags
    exact (Field.unambiguous_serialConsistency (h .serialConsistency)).concat_cons fun _ =>
      (Field.unambiguous_timestamp (h .timestamp)).concat_cons fun _ =>
      (Field.unambiguous_optional Field.unambiguous_string (h .keyspace)).concat_singleton
  refine ((Field.unambiguous_uint8 (by decide) left.kind right.kind).concat_cons fun _ =>
    (Field.unambiguous_length .batch left.entries.length right.entries.length).concat_cons
      fun hlen => (unambiguous_children version hl hr hlen).concat_cons fun _ =>
    (Field.unambiguous_uint16 left.consistency right.consistency).concat_cons fun _ =>
    (RequestFlags.unambiguous_encode version left.flags right.flags).concat_cons hparts).imp ?_
  rintro ⟨hkind, -, ⟨hentries, hvalues⟩, hconsistency, -, hserial, htimestamp, hkeyspace⟩
  -- The number of children and the flags are not fields of their own.
  cases left
  cases right
  subst hkind hentries hvalues hconsistency hserial htimestamp hkeyspace
  rfl

theorem QueryRequest.unambiguous_encode (version : ProtocolVersion) (left right : QueryRequest) :
    Unambiguous (left.encode version) (right.encode version)
      (left.query = right.query ∧ left.options.SameOnWire right.options) :=
  (Field.unambiguous_longString _ _).concat_cons fun _ =>
    (QueryParameters.unambiguous_encode version _ _).concat_singleton

theorem ExecuteRequest.unambiguous_encode (version : ProtocolVersion)
    (left right : ExecuteRequest) :
    Unambiguous (left.encode version) (right.encode version)
      (left.id = right.id ∧
        (version.sendsResultMetadataId →
          left.resultMetadataId.getD [] = right.resultMetadataId.getD []) ∧
        left.options.SameOnWire right.options) :=
  (Field.unambiguous_shortBytes _ _).concat_cons fun _ =>
    (Field.unambiguous_onlyIf rfl (Field.unambiguous_shortBytes _ _)).concat_cons fun _ =>
    (QueryParameters.unambiguous_encode version _ _).concat_singleton

namespace Request

/-- Requests of one kind tell their content; the kind itself is told by the header. -/
theorem unambiguous_encode (version : ProtocolVersion) {left right : Request}
    (hl : left.IsPaired) (hr : right.IsPaired) (hopcode : left.opcode = right.opcode) :
    Unambiguous (left.encode version) (right.encode version) (left.SameOnWire version right) := by
  cases left with
  | query left =>
    cases right with
    | query right => exact QueryRequest.unambiguous_encode version left right
    | execute right => exact absurd hopcode (by simp [opcode])
    | batch right => exact absurd hopcode (by simp [opcode])
  | execute left =>
    cases right with
    | query right => exact absurd hopcode (by simp [opcode])
    | execute right => exact ExecuteRequest.unambiguous_encode version left right
    | batch right => exact absurd hopcode (by simp [opcode])
  | batch left =>
    cases right with
    | query right => exact absurd hopcode (by simp [opcode])
    | execute right => exact absurd hopcode (by simp [opcode])
    | batch right => exact BatchRequest.unambiguous_encode version hl hr

theorem SameOnWire.opcode_eq {version : ProtocolVersion} {left right : Request}
    (h : left.SameOnWire version right) : left.opcode = right.opcode := by
  cases left <;> cases right <;> first | rfl | exact h.elim

theorem SameOnWire.encode_eq {version : ProtocolVersion} {left right : Request}
    (h : left.SameOnWire version right) : left.encode version = right.encode version := by
  cases left with
  | query left =>
    cases right with
    | query right =>
      obtain ⟨hquery, hoptions⟩ := h
      simp only [encode, QueryRequest.encode]
      rw [hquery, hoptions.encode_eq]
    | execute right => exact h.elim
    | batch right => exact h.elim
  | execute left =>
    cases right with
    | query right => exact h.elim
    | execute right =>
      obtain ⟨hid, hresult, hoptions⟩ := h
      have hfield : Field.onlyIf version.sendsResultMetadataId
            (Field.shortBytes (left.resultMetadataId.getD []))
          = Field.onlyIf version.sendsResultMetadataId
            (Field.shortBytes (right.resultMetadataId.getD [])) := by
        cases hsends : version.sendsResultMetadataId with
        | true => rw [hresult hsends]
        | false => rfl
      simp only [encode, ExecuteRequest.encode]
      rw [hid, hfield, hoptions.encode_eq]
    | batch right => exact h.elim
  | batch left =>
    cases right with
    | query right => exact h.elim
    | execute right => exact h.elim
    | batch right => rw [show left = right from h]

end Request

end CqlWire
