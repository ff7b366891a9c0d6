import CqlWire.Proofs.Statement.Bind

/-!
# Setting values by name

A name may belong to several bind markers, of different types.  Setting a value by name sets it at
each of them, encoded for the type of each, or fails for the first one that refuses it.  What comes
out depends only on which slots are set, and not on their order (`BoundStatement.setAll_eq_ok_iff`).

`BoundStatement.setByName_allOrNothing` is the full account.
-/

namespace CqlWire

/-! ### Columns of a name -/

namespace Columns

variable {columns : Columns} {name : String} {index : Nat}

/-- Whether the column at an index has a name. -/
def IsNamed (columns : Columns) (name : String) (index : Nat) : Prop :=
  ∃ column, columns[index]? = some column ∧ column.name = name

theorem exists_isNamed_iff :
    (∃ index, columns.IsNamed name index) ↔ ∃ column ∈ columns, column.name = name := by
  constructor
  · rintro ⟨index, column, hcolumn, hname⟩
    exact ⟨column, List.mem_of_getElem? hcolumn, hname⟩
  · rintro ⟨column, hcolumn, hname⟩
    obtain ⟨index, hindex⟩ := List.getElem?_of_mem hcolumn
    exact ⟨index, column, hindex, hname⟩

theorem mem_indicesOf_iff : index ∈ columns.indicesOf name ↔ columns.IsNamed name index := by
  simp only [indicesOf, List.mem_map, List.mem_filter, Prod.exists, List.mem_zipIdx_iff_getElem?,
    decide_eq_true_eq, exists_eq_right, IsNamed]

/-- The indices stand in order. -/
theorem pairwise_indicesOf (columns : Columns) (name : String) :
    (columns.indicesOf name).Pairwise (· < ·) := by
  have hall : (columns.zipIdx.map (·.2)).Pairwise (· < ·) := by
    rw [List.zipIdx_map_snd]
    exact List.pairwise_lt_range'
  exact hall.sublist (List.filter_sublist.map _)

/-- The indices in front of one are the smaller ones. -/
theorem mem_before_iff {before after : List Nat} {earlier : Nat}
    (h : columns.indicesOf name = before ++ index :: after) :
    earlier ∈ before ↔ columns.IsNamed name earlier ∧ earlier < index := by
  have hsorted := pairwise_indicesOf columns name
  rw [h, List.pairwise_append, List.pairwise_cons] at hsorted
  obtain ⟨-, ⟨hafter, -⟩, hbefore⟩ := hsorted
  rw [← mem_indicesOf_iff, h, List.mem_append, List.mem_cons]
  constructor
  · intro hmem
    exact ⟨.inl hmem, hbefore earlier hmem index List.mem_cons_self⟩
  · rintro ⟨hmem | rfl | hmem, hlt⟩
    · exact hmem
    · exact absurd hlt (Nat.lt_irrefl _)
    · exact absurd (hafter earlier hmem) (Nat.lt_asymm hlt)

theorem indicesOf_eq_nil_iff :
    columns.indicesOf name = [] ↔ ∀ column ∈ columns, column.name ≠ name := by
  rw [List.eq_nil_iff_forall_not_mem]
  simp only [mem_indicesOf_iff]
  rw [← not_exists, exists_isNamed_iff]
  simp only [not_exists, not_and, ne_eq]

end Columns

/-! ### Markers and values -/

namespace PreparedStatement

/-- Whether a value has an encoded form for the type of the marker at an index. -/
def EncodesAt (prepared : PreparedStatement) (value : Value) (index : Nat) (slot : EncodedValue) :
    Prop :=
  ∃ marker, prepared.markers[index]? = some marker ∧
    value.encodeFor prepared.codecs prepared.version marker.type = .ok slot

/-- Whether the marker at an index is the first one of a name whose type refuses a value. -/
structure RefusesFirst (prepared : PreparedStatement) (name : String) (value : Value) (index : Nat)
    (cause : CodecError) : Prop where
  refused : ∃ marker, prepared.markers[index]? = some marker ∧ marker.name = name ∧
    value.encodeFor prepared.codecs prepared.version marker.type = .error (.codec cause)
  admitted : ∀ earlier < index, ∀ marker, prepared.markers[earlier]? = some marker →
    marker.name = name →
      ∃ slot, value.encodeFor prepared.codecs prepared.version marker.type = .ok slot

end PreparedStatement

namespace BoundStatement

variable {bound later : BoundStatement} {index : Nat} {indices : List Nat} {name : String}
  {value : Value} {error : ClientError}

/-! ### One slot -/

theorem getElem?_slots_withSlot (h : index < bound.slots.length) (slot : EncodedValue)
    (other : Nat) :
    (bound.withSlot index slot).slots[other]?
      = if other = index then some slot else bound.slots[other]? := by
  show (bound.slots.set index slot)[other]? = _
  rw [List.getElem?_set, if_pos h]
  split_ifs with heq hne hne
  · rfl
  · exact absurd heq.symm hne
  · exact absurd hne.symm heq
  · rfl

/-- A value is not set if there is no marker at the index, or if its type refuses the value. -/
theorem set_eq_error_iff :
    bound.set index value = .error error ↔
      bound.prepared.markers.length ≤ index ∧
        error = .invalidArgument (.noMarkerAt index bound.prepared.markers.length) ∨
      ∃ marker cause, bound.prepared.markers[index]? = some marker ∧
        value.encodeFor bound.prepared.codecs bound.prepared.version marker.type
          = .error (.codec cause) ∧ error = .codec cause := by
  unfold set
  cases hmarker : bound.prepared.markers[index]? with
  | none =>
    have hindex := List.getElem?_eq_none_iff.mp hmarker
    rw [bound.length_slots]
    constructor
    · rintro ⟨⟩
      exact .inl ⟨hindex, rfl⟩
    · rintro (⟨-, rfl⟩ | ⟨_, _, ⟨⟩, -⟩)
      rfl
  | some marker =>
    have hindex := (List.getElem?_eq_some_iff.mp hmarker).1
    have hset (slot : EncodedValue) : bound.setRaw index slot ≠ .error error := by
      rw [setRaw, if_pos (lt_length_slots hmarker)]
      rintro ⟨⟩
    simp only [CqlWire.bind_eq_error_iff]
    constructor
    · rintro (hrefused | ⟨slot, -, h⟩)
      · obtain ⟨cause, rfl⟩ := Value.exists_cause_of_encodeWith hrefused
        exact .inr ⟨marker, cause, rfl, hrefused, rfl⟩
      · exact absurd h (hset slot)
    · rintro (⟨hout, -⟩ | ⟨_, cause, ⟨⟩, hrefused, rfl⟩)
      · exact absurd hindex (Nat.not_lt.mpr hout)
      · exact .inl hrefused

/-! ### Several slots -/

/-- Whether a statement is another one with other values in the slots at some places. -/
structure IsWrittenAt (bound : BoundStatement) (places : Nat → Prop)
    (gives : Nat → EncodedValue → Prop) (later : BoundStatement) : Prop where
  prepared_eq : later.prepared = bound.prepared
  attributes_eq : later.attributes = bound.attributes
  written_at : ∀ index, places index →
    ∃ slot, gives index slot ∧ later.slots[index]? = some slot
  kept_at : ∀ index, ¬ places index → later.slots[index]? = bound.slots[index]?

/-- A statement with another encoded value at an index is not changed elsewhere. -/
theorem isWrittenAt_withSlot {places : Nat → Prop} {gives : Nat → EncodedValue → Prop}
    {slot : EncodedValue} (hindex : index < bound.slots.length)
    (hplaces : ∀ place, places place ↔ index = place) (hgives : gives index slot) :
    bound.IsWrittenAt places gives (bound.withSlot index slot) where
  prepared_eq := rfl
  attributes_eq := rfl
  written_at place hplace := by
    obtain rfl := (hplaces place).mp hplace
    refine ⟨slot, hgives, ?_⟩
    rw [getElem?_slots_withSlot hindex, if_pos rfl]
  kept_at place hplace := by
    rw [getElem?_slots_withSlot hindex, if_neg]
    rintro rfl
    exact hplace ((hplaces place).mpr rfl)

/-- What is set at several indices does not depend on their order. -/
theorem setAll_eq_ok_iff :
    bound.setAll indices value = .ok later ↔
      bound.IsWrittenAt (· ∈ indices) (bound.prepared.EncodesAt value) later := by
  induction indices generalizing bound with
  | nil =>
    constructor
    · rintro ⟨⟩
      exact ⟨rfl, rfl, fun _ h => absurd h List.not_mem_nil, fun _ _ => rfl⟩
    · intro h
      have hslots : later.slots = bound.slots :=
        List.ext_getElem? fun index => h.kept_at index List.not_mem_nil
      exact congrArg Except.ok (BoundStatement.ext h.prepared_eq hslots h.attributes_eq).symm
  | cons first rest ih =>
    have hstep : bound.setAll (first :: rest) value
        = bound.set first value >>= fun middle => middle.setAll rest value := List.foldlM_cons
    rw [hstep, CqlWire.bind_eq_ok_iff]
    simp only [set_eq_ok_iff, ih]
    constructor
    · rintro ⟨_, ⟨marker, slot, hmarker, hslot, rfl⟩, hrest⟩
      have hmiddle := getElem?_slots_withSlot (lt_length_slots hmarker) slot
      refine ⟨hrest.prepared_eq, hrest.attributes_eq, fun index hindex => ?_,
        fun index hindex => ?_⟩
      · by_cases hmem : index ∈ rest
        · exact hrest.written_at index hmem
        · -- The first index does not come again, so that its slot stays what it was set to.
          obtain rfl := (List.mem_cons.mp hindex).resolve_right hmem
          refine ⟨slot, ⟨marker, hmarker, hslot⟩, ?_⟩
          rw [hrest.kept_at index hmem, hmiddle, if_pos rfl]
      · rw [hrest.kept_at index (List.not_mem_of_not_mem_cons hindex), hmiddle,
          if_neg (List.ne_of_not_mem_cons hindex)]
    · intro h
      obtain ⟨slot, ⟨marker, hmarker, hslot⟩, hlater⟩ := h.written_at first List.mem_cons_self
      have hmiddle := getElem?_slots_withSlot (lt_length_slots hmarker) slot
      refine ⟨_, ⟨marker, slot, hmarker, hslot, rfl⟩, h.prepared_eq, h.attributes_eq,
        fun index hindex => h.written_at index (List.mem_cons_of_mem _ hindex),
        fun index hindex => ?_⟩
      rw [hmiddle]
      split_ifs with heq
      · rw [heq, hlater]
      · exact h.kept_at index (List.not_mem_cons_of_ne_of_not_mem heq hindex)

/-- The first index at which a value can not be set is reported. -/
theorem setAll_eq_error_iff :
    bound.setAll indices value = .error error ↔
      ∃ before index after, indices = before ++ index :: after ∧
        (∀ earlier ∈ before, ∃ slot, bound.prepared.EncodesAt value earlier slot) ∧
        bound.set index value = .error error := by
  induction indices generalizing bound with
  | nil => exact iff_of_false nofun (by simp)
  | cons first rest ih =>
    have hstep : bound.setAll (first :: rest) value
        = bound.set first value >>= fun middle => middle.setAll rest value := List.foldlM_cons
    -- What is refused does not depend on the slots.
    have hsame (slot : EncodedValue) (index : Nat) :
        (bound.withSlot first slot).set index value = .error error ↔
          bound.set index value = .error error := by
      rw [set_eq_error_iff, set_eq_error_iff]
      exact Iff.rfl
    rw [hstep, CqlWire.bind_eq_error_iff]
    simp only [set_eq_ok_iff, ih]
    constructor
    · rintro (h | ⟨_, ⟨marker, slot, hmarker, hslot, rfl⟩, before, index, after, rfl, hbefore, h⟩)
      · exact ⟨[], first, rest, rfl, fun _ h => absurd h List.not_mem_nil, h⟩
      · exact ⟨first :: before, index, after, rfl,
          List.forall_mem_cons.mpr ⟨⟨slot, marker, hmarker, hslot⟩, hbefore⟩, (hsame _ _).mp h⟩
    · rintro ⟨_ | ⟨_, before⟩, index, after, hindices, hbefore, h⟩
      · obtain ⟨rfl, rfl⟩ := List.cons.inj hindices
        exact .inl h
      · obtain ⟨rfl, rfl⟩ := List.cons.inj hindices
        obtain ⟨⟨slot, marker, hmarker, hslot⟩, hbefore⟩ := List.forall_mem_cons.mp hbefore
        exact .inr ⟨_, ⟨marker, slot, hmarker, hslot, rfl⟩, before, index, after, rfl, hbefore,
          (hsame _ _).mpr h⟩

/-! ### All markers of a name -/

theorem setByName_eq_setAll (hnamed : ∃ marker ∈ bound.prepared.markers, marker.name = name) :
    bound.setByName name value = bound.setAll (bound.prepared.markers.indicesOf name) value := by
  unfold setByName
  split
  · next hnone =>
    obtain ⟨marker, hmarker, hname⟩ := hnamed
    exact absurd hname (Columns.indicesOf_eq_nil_iff.mp hnone marker hmarker)
  · rfl

theorem setByName_of_not_named (hnone : ∀ marker ∈ bound.prepared.markers, marker.name ≠ name) :
    bound.setByName name value = .error (.invalidArgument (.noMarkerNamed name)) := by
  unfold setByName
  rw [Columns.indicesOf_eq_nil_iff.mpr hnone]

/-- A value is set by name at the markers of the name, and nowhere else. -/
theorem setByName_eq_ok_iff :
    bound.setByName name value = .ok later ↔
      (∃ marker ∈ bound.prepared.markers, marker.name = name) ∧
        bound.IsWrittenAt (bound.prepared.markers.IsNamed name)
          (bound.prepared.EncodesAt value) later := by
  by_cases hnamed : ∃ marker ∈ bound.prepared.markers, marker.name = name
  · rw [setByName_eq_setAll hnamed, setAll_eq_ok_iff, and_iff_right hnamed]
    simp only [Columns.mem_indicesOf_iff]
  · rw [setByName_of_not_named fun marker hmarker hname => hnamed ⟨marker, hmarker, hname⟩]
    exact iff_of_false nofun fun h => hnamed h.1

/-- A value is not set by name if there is no marker of the name, or if one of them refuses it. -/
theorem setByName_eq_error_iff :
    bound.setByName name value = .error error ↔
      (∀ marker ∈ bound.prepared.markers, marker.name ≠ name) ∧
        error = .invalidArgument (.noMarkerNamed name) ∨
      ∃ index cause, bound.prepared.RefusesFirst name value index cause ∧
        error = .codec cause := by
  by_cases hnamed : ∃ marker ∈ bound.prepared.markers, marker.name = name
  · rw [setByName_eq_setAll hnamed, setAll_eq_error_iff]
    constructor
    · rintro ⟨before, index, after, hindices, hbefore, h⟩
      obtain ⟨column, hcolumn, hname⟩ : bound.prepared.markers.IsNamed name index :=
        Columns.mem_indicesOf_iff.mp (hindices ▸ List.mem_append_right _ List.mem_cons_self)
      rcases set_eq_error_iff.mp h with ⟨hout, -⟩ | ⟨marker, cause, hmarker, hcause, rfl⟩
      · exact absurd (List.getElem?_eq_some_iff.mp hcolumn).1 (Nat.not_lt.mpr hout)
      · obtain rfl := Option.some.inj (hcolumn.symm.trans hmarker)
        refine .inr ⟨index, cause, ⟨⟨column, hcolumn, hname, hcause⟩, ?_⟩, rfl⟩
        intro earlier hlt other hother hother'
        obtain ⟨slot, _, hsame, hslot⟩ := hbefore earlier
          ((Columns.mem_before_iff hindices).mpr ⟨⟨other, hother, hother'⟩, hlt⟩)
        obtain rfl := Option.some.inj (hother.symm.trans hsame)
        exact ⟨slot, hslot⟩
    · rintro (⟨hnone, -⟩ | ⟨index, cause, hfirst, rfl⟩)
      · obtain ⟨marker, hmarker, hname⟩ := hnamed
        exact absurd hname (hnone marker hmarker)
      · obtain ⟨column, hcolumn, hname, hcause⟩ := hfirst.refused
        obtain ⟨before, after, hindices⟩ := List.append_of_mem
          (Columns.mem_indicesOf_iff.mpr ⟨column, hcolumn, hname⟩)
        refine ⟨before, index, after, hindices, fun earlier hearlier => ?_,
          set_eq_error_iff.mpr (.inr ⟨column, cause, hcolumn, hcause, rfl⟩)⟩
        obtain ⟨⟨other, hother, hother'⟩, hlt⟩ := (Columns.mem_before_iff hindices).mp hearlier
        obtain ⟨slot, hslot⟩ := hfirst.admitted earlier hlt other hother hother'
        exact ⟨slot, other, hother, hslot⟩
  · have hnone : ∀ marker ∈ bound.prepared.markers, marker.name ≠ name :=
      fun marker hmarker hname => hnamed ⟨marker, hmarker, hname⟩
    rw [setByName_of_not_named hnone, Except.error.injEq]
    constructor
    · rintro rfl
      exact .inl ⟨hnone, rfl⟩
    · rintro (⟨-, rfl⟩ | ⟨index, cause, hfirst, -⟩)
      · rfl
      · obtain ⟨column, hcolumn, hname, -⟩ := hfirst.refused
        exact absurd hname (hnone column (List.mem_of_getElem? hcolumn))

/-- A value can be set by name exactly if all markers of the name admit it. -/
theorem exists_setByName_eq_error_iff
    (hnamed : ∃ marker ∈ bound.prepared.markers, marker.name = name) :
    (∃ error, bound.setByName name value = .error error) ↔
      ∃ marker ∈ bound.prepared.markers, marker.name = name ∧
        ∃ cause, value.encodeFor bound.prepared.codecs bound.prepared.version marker.type
          = .error cause := by
  constructor
  · rintro ⟨error, h⟩
    rcases setByName_eq_error_iff.mp h with ⟨hnone, -⟩ | ⟨index, cause, hfirst, -⟩
    · obtain ⟨marker, hmarker, hname⟩ := hnamed
      exact absurd hname (hnone marker hmarker)
    · obtain ⟨marker, hmarker, hname, hcause⟩ := hfirst.refused
      exact ⟨marker, List.mem_of_getElem? hmarker, hname, _, hcause⟩
  · rintro ⟨marker, hmarker, hname, cause, hcause⟩
    cases h : bound.setByName name value with
    | error error => exact ⟨error, rfl⟩
    | ok later =>
      -- The value would have been encoded for the type that refuses it.
      obtain ⟨index, hindex⟩ := List.getElem?_of_mem hmarker
      obtain ⟨slot, ⟨_, hsame, hslot⟩, -⟩ :=
        (setByName_eq_ok_iff.mp h).2.written_at index ⟨marker, hindex, hname⟩
      obtain rfl := Option.some.inj (hindex.symm.trans hsame)
      exact nomatch hcause.symm.trans hslot

/-- **A value is set by name at all markers of the name, or at none.**  If there is no marker of the
name, the name is refused.  Otherwise it fails exactly if the type of one of these markers refuses
the value, with the error of the first one that does.  If it succeeds, each of the markers holds the
value as it is encoded for its own type, and all other slots and the attributes are as before; and
setting the value at the indices of the name in any order comes out the same. -/
theorem setByName_allOrNothing (bound : BoundStatement) (name : String) (value : Value) :
    (∀ fault, bound.setByName name value = .error (.invalidArgument fault) ↔
      (∀ marker ∈ bound.prepared.markers, marker.name ≠ name) ∧ fault = .noMarkerNamed name) ∧
    ((∃ marker ∈ bound.prepared.markers, marker.name = name) →
      ((∃ error, bound.setByName name value = .error error) ↔
        ∃ marker ∈ bound.prepared.markers, marker.name = name ∧
          ∃ cause, value.encodeFor bound.prepared.codecs bound.prepared.version marker.type
            = .error cause) ∧
      (∀ error, bound.setByName name value = .error error ↔
        ∃ index cause, bound.prepared.RefusesFirst name value index cause ∧
          error = .codec cause) ∧
      ∀ later, bound.setByName name value = .ok later →
        later.prepared = bound.prepared ∧ later.attributes = bound.attributes ∧
        (∀ (index : Nat) (marker : Column), bound.prepared.markers[index]? = some marker →
          (marker.name = name →
            ∃ slot, value.encodeFor bound.prepared.codecs bound.prepared.version marker.type
                = .ok slot ∧
              later.slots[index]? = some slot) ∧
          (marker.name ≠ name → later.slots[index]? = bound.slots[index]?)) ∧
        ∀ indices : List Nat,
          (∀ index, index ∈ indices ↔ bound.prepared.markers.IsNamed name index) →
          bound.setAll indices value = .ok later) := by
  refine ⟨fun fault => ?_, fun hnamed => ⟨exists_setByName_eq_error_iff hnamed, fun error => ?_,
    fun later h => ?_⟩⟩
  · simp [setByName_eq_error_iff]
  · rw [setByName_eq_error_iff]
    refine or_iff_right fun ⟨hnone, _⟩ => ?_
    obtain ⟨marker, hmarker, hname⟩ := hnamed
    exact hnone marker hmarker hname
  · obtain ⟨-, hset⟩ := setByName_eq_ok_iff.mp h
    refine ⟨hset.prepared_eq, hset.attributes_eq, fun index marker hmarker => ⟨fun hname => ?_,
      fun hname => ?_⟩, fun indices hindices => ?_⟩
    · obtain ⟨slot, ⟨_, hsame, hslot⟩, hlater⟩ := hset.written_at index ⟨marker, hmarker, hname⟩
      obtain rfl := Option.some.inj (hmarker.symm.trans hsame)
      exact ⟨slot, hslot, hlater⟩
    · refine hset.kept_at index fun ⟨other, hother, hname'⟩ => hname ?_
      obtain rfl := Option.some.inj (hmarker.symm.trans hother)
      exact hname'
    · rw [setAll_eq_ok_iff]
      simp only [hindices]
      exact hset

/-- A statement with two markers of one name, of different types. -/
def sharedName : PreparedStatement :=
  { handle := 0
    id := [1]
    query := "q"
    markers := [⟨"k", "t", "a", .native .int⟩, ⟨"k", "t", "b", .native .blob⟩,
      ⟨"k", "t", "a", .native .bigint⟩]
    partitionKey := []
    preparedShape := {}
    boundDefaults := {}
    customPayload := ∅
    codecs := .standard
    version := .v5 }

/-- The second marker refuses a number that the first one admits, so that it is set nowhere.  Null
is set at both, from the front or from the back. -/
theorem setByName_allOrNothing_of_sharedName :
    let bound := fresh sharedName
    bound.setByName "a" (.int 7) = .error (.codec (.wrongValue .bigint .int)) ∧
      ∃ later, bound.setByName "a" .null = .ok later ∧ bound.setAll [2, 0] .null = .ok later ∧
        later.slots[0]? = some .null ∧ later.slots[1]? = some .unset ∧
        later.slots[2]? = some .null := by
  intro bound
  have hnamed : ∃ marker ∈ sharedName.markers, marker.name = "a" := ⟨_, List.mem_cons_self, rfl⟩
  obtain ⟨later, hlater⟩ : ∃ later, bound.setByName "a" .null = .ok later := ⟨_, rfl⟩
  obtain ⟨-, hrefused⟩ := setByName_allOrNothing bound "a" (.int 7)
  obtain ⟨-, hset⟩ := setByName_allOrNothing bound "a" .null
  obtain ⟨-, -, hslots, horder⟩ := (hset hnamed).2.2 later hlater
  refine ⟨((hrefused hnamed).2.1 _).mpr ⟨2, _, ⟨⟨_, rfl, rfl, rfl⟩, ?_⟩, rfl⟩, later, hlater,
    horder [2, 0] ?_, ?_, (hslots 1 _ rfl).2 (by decide), ?_⟩
  · intro earlier hlt marker hmarker hname
    match earlier, hlt with
    | 0, _ =>
      obtain rfl := Option.some.inj hmarker
      exact ⟨_, rfl⟩
    | 1, _ =>
      obtain rfl := Option.some.inj hmarker
      exact absurd hname (by decide)
  · intro index
    have hindices : sharedName.markers.indicesOf "a" = [0, 2] := by decide
    show index ∈ [2, 0] ↔ sharedName.markers.IsNamed "a" index
    rw [← Columns.mem_indicesOf_iff, hindices, List.mem_pair, List.mem_pair, or_comm]
  · obtain ⟨slot, hslot, hheld⟩ := (hslots 0 _ rfl).1 rfl
    obtain rfl := Except.ok.inj hslot
    exact hheld
  · obtain ⟨slot, hslot, hheld⟩ := (hslots 2 _ rfl).1 rfl
    obtain rfl := Except.ok.inj hslot
    exact hheld

end BoundStatement

end CqlWire
