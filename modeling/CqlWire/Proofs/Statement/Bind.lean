import CqlWire.Proofs.Codec.RoundTrip
import CqlWire.Statement.Bound

/-!
# Binding values

Binding a list of values to a prepared statement sets its first markers, in order, and leaves the
others unset (`BoundStatement.bind_eq_ok_iff`).  With the standard registry it succeeds exactly if
there are no more values than markers and the type of each marker admits its value
(`BoundStatement.exists_bind_eq_ok_iff`).
-/

namespace CqlWire

/-! ### Values and their markers -/

/-- Values with their encoded forms for the columns at whose places they stand.  There may be more
columns than values. -/
inductive Encodes (codecs : CodecRegistry) (version : ProtocolVersion) :
    Columns → List Value → List EncodedValue → Prop
  | nil {columns : Columns} : Encodes codecs version columns [] []
  | cons {column : Column} {columns : Columns} {value : Value} {values : List Value}
      {slot : EncodedValue} {slots : List EncodedValue}
      (hfirst : value.encodeFor codecs version column.type = .ok slot)
      (hrest : Encodes codecs version columns values slots) :
    Encodes codecs version (column :: columns) (value :: values) (slot :: slots)

namespace Encodes

variable {codecs : CodecRegistry} {version : ProtocolVersion} {columns : Columns}
  {values : List Value} {slots : List EncodedValue}

theorem length_eq (h : Encodes codecs version columns values slots) :
    slots.length = values.length := by
  induction h with
  | nil => rfl
  | cons hfirst hrest ih => rw [List.length_cons, List.length_cons, ih]

theorem length_le (h : Encodes codecs version columns values slots) :
    values.length ≤ columns.length := by
  induction h with
  | nil => exact Nat.zero_le _
  | cons hfirst hrest ih => exact Nat.succ_le_succ ih

/-- With the standard registry, the encoded form of a value does not depend on its column. -/
theorem forall₂_encode (h : Encodes .standard version columns values slots) :
    List.Forall₂ (fun value slot => Value.encode .standard version value = .ok slot) values
      slots := by
  induction h with
  | nil => exact .nil
  | cons hfirst hrest ih => exact .cons (Value.encode_eq_ok_of_encodeFor hfirst) ih

/-- Each value stands at the same place as its column and its encoded form. -/
theorem exists_of_getElem? (h : Encodes codecs version columns values slots) {i : Nat}
    {value : Value} (hvalue : values[i]? = some value) :
    ∃ column slot, columns[i]? = some column ∧ slots[i]? = some slot ∧
      value.encodeFor codecs version column.type = .ok slot := by
  induction h generalizing i with
  | nil => exact nomatch hvalue
  | cons hfirst hrest ih =>
    cases i with
    | zero =>
      obtain rfl := Option.some.inj hvalue
      exact ⟨_, _, rfl, rfl, hfirst⟩
    | succ i => exact ih hvalue

/-- With the standard registry, there are encoded forms if there is a column for each value, and it
admits the value. -/
theorem exists_iff (version : ProtocolVersion) :
    (∃ slots, Encodes .standard version columns values slots) ↔
      values.length ≤ columns.length ∧ ∀ (i : Nat) (value : Value) (column : Column),
        values[i]? = some value → columns[i]? = some column → column.type.Admits value := by
  induction values generalizing columns with
  | nil => simpa using ⟨_, Encodes.nil⟩
  | cons value values ih =>
    cases columns with
    | nil => exact iff_of_false (fun ⟨_, h⟩ => nomatch h) (fun h => nomatch h.1)
    | cons column columns =>
      constructor
      · rintro ⟨_, hencodes⟩
        cases hencodes with
        | cons hfirst hrest =>
          obtain ⟨hlength, hadmits⟩ := ih.mp ⟨_, hrest⟩
          refine ⟨Nat.succ_le_succ hlength, fun i value' column' hvalue hcolumn => ?_⟩
          cases i with
          | zero =>
            obtain rfl := Option.some.inj hvalue
            obtain rfl := Option.some.inj hcolumn
            exact (Value.exists_encodeFor_eq_ok_iff version).mp ⟨_, hfirst⟩
          | succ i => exact hadmits i value' column' hvalue hcolumn
      · rintro ⟨hlength, hadmits⟩
        obtain ⟨slot, hfirst⟩ :=
          (Value.exists_encodeFor_eq_ok_iff version).mpr (hadmits 0 _ _ rfl rfl)
        obtain ⟨slots, hrest⟩ := ih.mpr
          ⟨Nat.le_of_succ_le_succ hlength, fun i value column => hadmits (i + 1) value column⟩
        exact ⟨_, .cons hfirst hrest⟩

/-- The first value stands at the first column that is left. -/
theorem drop_cons_iff {start : Nat} {value : Value} :
    Encodes codecs version (columns.drop start) (value :: values) slots ↔
      ∃ column slot rest, columns[start]? = some column ∧
        value.encodeFor codecs version column.type = .ok slot ∧
        Encodes codecs version (columns.drop (start + 1)) values rest ∧ slots = slot :: rest := by
  by_cases hstart : start < columns.length
  · rw [List.drop_eq_getElem_cons hstart, List.getElem?_eq_getElem hstart]
    constructor
    · rintro (_ | ⟨hfirst, hrest⟩)
      exact ⟨_, _, _, rfl, hfirst, hrest, rfl⟩
    · rintro ⟨_, slot, rest, ⟨⟩, hfirst, hrest, rfl⟩
      exact .cons hfirst hrest
  · rw [List.drop_eq_nil_of_le (Nat.not_lt.mp hstart),
      List.getElem?_eq_none (Nat.not_lt.mp hstart)]
    exact iff_of_false (fun h => nomatch h) fun ⟨_, _, _, h, _⟩ => nomatch h

end Encodes

/-! ### Bound statements -/

attribute [ext] BoundStatement

namespace BoundStatement

variable {bound later : BoundStatement}

theorem length_set_slots (bound : BoundStatement) (index : Nat) (slot : EncodedValue) :
    (bound.slots.set index slot).length = bound.prepared.markers.length := by
  rw [List.length_set, bound.length_slots]

/-- The statement with another encoded value at an index. -/
def withSlot (bound : BoundStatement) (index : Nat) (slot : EncodedValue) : BoundStatement :=
  { bound with
    slots := bound.slots.set index slot
    length_slots := bound.length_set_slots index slot }

/-- There is a slot for each marker. -/
theorem lt_length_slots {index : Nat} {marker : Column}
    (h : bound.prepared.markers[index]? = some marker) : index < bound.slots.length := by
  rw [bound.length_slots]
  exact (List.getElem?_eq_some_iff.mp h).1

/-- Setting a value changes only its slot. -/
theorem set_eq_ok_iff {index : Nat} {value : Value} :
    bound.set index value = .ok later ↔
      ∃ marker slot, bound.prepared.markers[index]? = some marker ∧
        value.encodeFor bound.prepared.codecs bound.prepared.version marker.type = .ok slot ∧
        later = bound.withSlot index slot := by
  unfold set
  cases hmarker : bound.prepared.markers[index]? with
  | none => simp
  | some marker =>
    simp only [CqlWire.bind_eq_ok_iff, setRaw, if_pos (lt_length_slots hmarker), Except.ok.injEq,
      Option.some.injEq]
    constructor
    · rintro ⟨slot, hslot, rfl⟩
      exact ⟨marker, slot, rfl, hslot, rfl⟩
    · rintro ⟨_, slot, rfl, hslot, rfl⟩
      exact ⟨slot, hslot, rfl⟩

/-- What is written behind a slot leaves the slot and those before it alone. -/
theorem take_append_drop_withSlot {index : Nat} (slot : EncodedValue) (rest : List EncodedValue)
    (count : Nat) (h : index < bound.slots.length) :
    (bound.withSlot index slot).slots.take (index + 1) ++ rest
        ++ (bound.withSlot index slot).slots.drop (index + 1 + count)
      = bound.slots.take index ++ slot :: rest ++ bound.slots.drop (index + (count + 1)) := by
  have hslots : (bound.withSlot index slot).slots
      = (bound.slots.take index ++ [slot]) ++ bound.slots.drop (index + 1) := by
    rw [← List.append_cons]
    exact List.set_eq_take_append_cons_drop.trans (if_pos h)
  have hlength : (bound.slots.take index ++ [slot]).length = index + 1 := by
    rw [List.length_append, List.length_take_of_le h.le, List.length_singleton]
  rw [hslots, List.take_left' hlength, ← List.drop_drop, List.drop_left' hlength, List.drop_drop,
    Nat.add_right_comm, List.append_assoc _ [slot]]
  rfl

/-- Values are set one after the other, from some marker on. -/
theorem foldlM_set_eq_ok_iff {values : List Value} {start : Nat} :
    (values.zipIdx start).foldlM (fun bound (value, index) => bound.set index value) bound
        = .ok later ↔
      ∃ slots, Encodes bound.prepared.codecs bound.prepared.version
          (bound.prepared.markers.drop start) values slots ∧
        later.prepared = bound.prepared ∧ later.attributes = bound.attributes ∧
        later.slots
          = bound.slots.take start ++ slots ++ bound.slots.drop (start + values.length) := by
  -- The slots before `start` have been set already; the marker there is the next one.
  induction values generalizing start bound with
  | nil =>
    rw [List.zipIdx_nil, List.foldlM_nil, List.length_nil, Nat.add_zero]
    constructor
    · rintro ⟨⟩
      exact ⟨[], .nil, rfl, rfl, by rw [List.append_nil, List.take_append_drop]⟩
    · rintro ⟨slots, hencodes, hprepared, hattributes, hslots⟩
      obtain rfl := List.eq_nil_of_length_eq_zero hencodes.length_eq
      rw [List.append_nil, List.take_append_drop] at hslots
      exact congrArg Except.ok (BoundStatement.ext hprepared hslots hattributes).symm
  | cons value values ih =>
    rw [List.zipIdx_cons, List.foldlM_cons, CqlWire.bind_eq_ok_iff]
    simp only [set_eq_ok_iff, ih, Encodes.drop_cons_iff]
    constructor
    · rintro ⟨_, ⟨marker, slot, hmarker, hfirst, rfl⟩, rest, hrest, hprepared, hattributes,
        hslots⟩
      refine ⟨slot :: rest, ⟨marker, slot, rest, hmarker, hfirst, hrest, rfl⟩, hprepared,
        hattributes, ?_⟩
      rw [hslots, take_append_drop_withSlot slot rest _ (lt_length_slots hmarker), List.length_cons]
    · rintro ⟨_, ⟨marker, slot, rest, hmarker, hfirst, hrest, rfl⟩, hprepared, hattributes,
        hslots⟩
      refine ⟨_, ⟨marker, slot, hmarker, hfirst, rfl⟩, rest, hrest, hprepared, hattributes, ?_⟩
      rw [hslots, take_append_drop_withSlot slot rest _ (lt_length_slots hmarker), List.length_cons]

/-- Binding sets the first markers and leaves the others unset. -/
theorem bind_eq_ok_iff {prepared : PreparedStatement} {values : List Value} :
    bind prepared values = .ok bound ↔
      ∃ slots, Encodes prepared.codecs prepared.version prepared.markers values slots ∧
        bound.prepared = prepared ∧ bound.attributes = (fresh prepared).attributes ∧
        bound.slots = slots ++ List.replicate (prepared.markers.length - values.length) .unset := by
  have hfresh : (fresh prepared).slots.drop (0 + values.length)
      = List.replicate (prepared.markers.length - values.length) .unset := by
    show (prepared.markers.map fun _ => EncodedValue.unset).drop (0 + values.length) = _
    rw [Nat.zero_add, List.map_const', List.drop_replicate]
  unfold bind
  rw [foldlM_set_eq_ok_iff, hfresh]
  rfl

/-- With the standard registry, values can be bound exactly if there are no more of them than
markers, and the type of each marker admits its value. -/
theorem exists_bind_eq_ok_iff {prepared : PreparedStatement} {values : List Value}
    (hcodecs : prepared.codecs = .standard) :
    (∃ bound, bind prepared values = .ok bound) ↔
      values.length ≤ prepared.markers.length ∧ ∀ (i : Nat) (value : Value) (marker : Column),
        values[i]? = some value → prepared.markers[i]? = some marker →
          marker.type.Admits value := by
  rw [← Encodes.exists_iff prepared.version, ← hcodecs]
  constructor
  · rintro ⟨bound, hbound⟩
    obtain ⟨slots, hslots, -⟩ := bind_eq_ok_iff.mp hbound
    exact ⟨slots, hslots⟩
  · rintro ⟨slots, hslots⟩
    have hlength : (slots ++ List.replicate (prepared.markers.length - values.length)
        EncodedValue.unset).length = prepared.markers.length := by
      rw [List.length_append, List.length_replicate, hslots.length_eq,
        Nat.add_sub_cancel' hslots.length_le]
    exact ⟨⟨prepared, _, (fresh prepared).attributes, hlength⟩,
      bind_eq_ok_iff.mpr ⟨slots, hslots, rfl, rfl, rfl⟩⟩

end BoundStatement

end CqlWire
