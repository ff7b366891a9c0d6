import CqlWire.Proofs.Request.OfStatement
import CqlWire.Proofs.Session.Pages
import CqlWire.Proofs.Session.Prepare
import CqlWire.Proofs.Statement.Bind

/-!
# Values are read back from rows

Values that are bound to the markers of a prepared statement travel in the order of the markers, and
the markers that got no value travel as unset (`Session.get_of_bind`).  When the server returns them
in a row, in columns of the same types, each value is read back as it was bound.  This is about the
codecs of the library: another registry need not read what it writes.
-/

namespace CqlWire

/-! ### Cells -/

/-- Whether a cell holds an encoded value.  Of a value that was left unset nothing is known. -/
inductive EncodedValue.IsHeldBy : EncodedValue → Option Bytes → Prop
  | null : IsHeldBy .null none
  | unset {cell : Option Bytes} : IsHeldBy .unset cell
  | bytes {content : Bytes} : IsHeldBy (.bytes content) (some content)

/-- Whether a value is read back from its encoded form: unset values have none, and tokens are
written without their scheme. -/
def Value.IsReadable : Value → Prop
  | unset => False
  | token _ => False
  | _ => True

/-- Whether a row gives values back at their places. -/
def Row.GivesBack (row : Row) (values : List Value) : Prop :=
  ∀ (i : Nat) (value : Value), values[i]? = some value → value.IsReadable → row.get i = .ok value

/-- A value is read back from a cell that holds it, in a column of the type that it was encoded
for. -/
theorem Row.get_eq_ok_of_encodeFor {row : Row} {index : Nat} {column : Column}
    {cell : Option Bytes} {value : Value} {slot : EncodedValue} {version : ProtocolVersion}
    (hcodecs : row.codecs = .standard) (hcolumn : row.columns[index]? = some column)
    (hcell : row.cells[index]? = some cell)
    (hslot : value.encodeFor .standard version column.type = .ok slot)
    (hheld : slot.IsHeldBy cell) (hreadable : value.IsReadable) : row.get index = .ok value := by
  cases Value.encodeWith_eq_ok_iff.mp hslot with
  | null =>
    cases hheld
    exact get_of_reads (.null hcell)
  | unset => exact hreadable.elim
  | token position => exact hreadable.elim
  | byCodec hneeds hfound hbytes =>
    cases hheld
    obtain ⟨codec, -, rfl⟩ := CodecRegistry.forType_standard_eq_ok_iff.mp hfound
    have hcodec : row.codecs.forType column.type = .ok codec.toValueCodec := hcodecs ▸ hfound
    exact get_of_reads (.decoded hcell hcolumn hcodec (Codec.decode_eq_ok_of_encode hbytes))

/-- A row gives values back if its cells begin with their encoded forms, in columns of the types
that they were encoded for. -/
theorem Row.givesBack_of_encodes {row : Row} {columns : Columns} {values : List Value}
    {encoded others : List EncodedValue} {version : ProtocolVersion}
    (hcodecs : row.codecs = .standard) (hencodes : Encodes .standard version columns values encoded)
    (hcolumns : ∀ (i : Nat) (column : Column), columns[i]? = some column →
      ∃ found, row.columns[i]? = some found ∧ found.type = column.type)
    (hcells : List.Forall₂ EncodedValue.IsHeldBy (encoded ++ others) row.cells) :
    row.GivesBack values := by
  intro i value hvalue hreadable
  obtain ⟨column, slot, hcolumn, hslot, hencoded⟩ := hencodes.exists_of_getElem? hvalue
  obtain ⟨found, hfound, htype⟩ := hcolumns i column hcolumn
  have hsent : (encoded ++ others)[i]? = some slot := by
    rw [List.getElem?_append_left (List.getElem?_eq_some_iff.mp hslot).1, hslot]
  obtain ⟨cell, hcell, hheld⟩ := exists_getElem?_of_forall₂ hcells hsent
  exact get_eq_ok_of_encodeFor hcodecs hfound hcell (htype ▸ hencoded) hheld hreadable

namespace Session

variable {session later : Session}

/-! ### From binding to reading -/

/-- **Values are read back as they were bound.**  With the standard registry, values can be bound to
the first markers of a prepared statement exactly if there is a marker for each and the type of the
marker admits the value.  The request of the bound statement has their encoded forms in this order,
and unset for each marker without a value.  A row with these encoded values in its cells, in columns
that are described with the types of the markers, gives the values back. -/
theorem get_of_bind {request : PrepareRequest} {response : PreparedAnswer}
    {prepared : PreparedStatement}
    (hcodecs : session.context.codecs = .standard)
    (hprepared : session.prepare request response = .ok (prepared, later)) (values : List Value) :
    ((∃ bound, BoundStatement.bind prepared values = .ok bound) ↔
      values.length ≤ prepared.markers.length ∧ ∀ (i : Nat) (value : Value) (marker : Column),
        values[i]? = some value → prepared.markers[i]? = some marker →
          marker.type.Admits value) ∧
    ∀ bound, BoundStatement.bind prepared values = .ok bound →
      ∃ encoded, List.Forall₂ (fun value slot =>
          Value.encode .standard session.context.version value = .ok slot) values encoded ∧
        let sent := encoded
          ++ List.replicate (prepared.markers.length - values.length) EncodedValue.unset
        (∀ (current : Session) (profile : Profile) (message : Request),
          (current.makeRequest profile (.bound bound)).1 = .ok message →
            ∃ execute, message = .execute execute ∧ execute.options.values
              = if prepared.markers.length = 0 then .empty else .positional sent) ∧
        ∀ (current : Session) (execution : Execution) (metadata : MetadataBlock)
          (data : List (List (Option Bytes))), current.context.codecs = .standard →
          metadata.descriptions.map (·.type) = response.markers.descriptions.map (·.type) →
            ((∃ bound, execution.statement = .bound bound) →
              ∃ outcome, current.receive execution (.rows metadata data) = .ok outcome) ∧
            ∀ page after, current.receive execution (.rows metadata data) = .ok (page, after) →
              ∀ (count : Nat) (cells : List (Option Bytes)), data[count]? = some cells →
                List.Forall₂ EncodedValue.IsHeldBy sent cells →
                  ∃ row, page.nth? count = some row ∧ row.GivesBack values := by
  obtain ⟨markers, columns, hmarkers, -, rfl, -⟩ := prepare_eq_ok_iff.mp hprepared
  refine ⟨BoundStatement.exists_bind_eq_ok_iff hcodecs, fun bound hbound => ?_⟩
  obtain ⟨encoded, hencodes, hof, -, hslots⟩ := BoundStatement.bind_eq_ok_iff.mp hbound
  replace hencodes : Encodes .standard session.context.version markers values encoded :=
    hcodecs ▸ hencodes
  refine ⟨encoded, hencodes.forall₂_encode, ?_, ?_⟩
  · intro current profile message hmade
    obtain ⟨inputs, -, htranslated⟩ := exists_inputs_of_makeRequest hmade
    obtain ⟨-, rfl⟩ := BoundStatement.toRequest_eq_ok_iff.mp htranslated
    refine ⟨_, rfl, ?_⟩
    have hempty : bound.slots.isEmpty ↔ markers.length = 0 := by
      rw [List.isEmpty_iff_length_eq_zero, bound.length_slots, hof]
      rfl
    rw [← hslots, BoundStatement.executeOf]
    exact if_congr hempty rfl rfl
  · intro current execution metadata data hcurrent htypes
    obtain ⟨found, hfound, -⟩ := MetadataBlock.exists_columns_eq_ok htypes hmarkers
    refine ⟨fun ⟨bound, hexecution⟩ => exists_receive_rows_eq_ok hexecution hfound, ?_⟩
    intro page after hreceive count cells hcells hheld
    have hpage : page.codecs = .standard ∧ page.rows = data := by
      obtain ⟨_, _, -, rfl, -⟩ := receive_rows_eq_ok_iff.mp hreceive
      exact ⟨hcurrent, rfl⟩
    refine ⟨page.rowOf cells, ?_, Row.givesBack_of_encodes hpage.1 hencodes ?_ hheld⟩
    · rw [ResultPage.nth?_eq, hpage.2, hcells, Option.map_some]
    · intro i marker hmarker
      exact columns_of_receive_rows hreceive htypes hmarkers hmarker

/-- An answer with a counter, an ASCII text and a truth value as bind markers. -/
def threeMarkers : PreparedAnswer :=
  let description (name : String) (index : Nat) (type : NativeType) : ColumnDescription :=
    ⟨"k", "t", name, index, .native type.id⟩
  { id := [1]
    markers := {
      descriptions := [description "a" 0 .counter, description "b" 1 .ascii,
        description "c" 2 .boolean] } }

/-- The prepared statement of this answer. -/
def threeMarked : PreparedStatement :=
  PrepareRequest.preparedOf { query := "q" } .standard .v5 threeMarkers 0
    [⟨"k", "t", "a", .native .counter⟩, ⟨"k", "t", "b", .native .ascii⟩,
      ⟨"k", "t", "c", .native .boolean⟩] []

/-- A number is read back from a counter and null from a text; the third marker got no value, so
anything may stand in its cell. -/
theorem get_of_bind_of_missing_value :
    let session : Session := { context := { version := .v5 }, timestamps := .serverSide }
    let cells : List (Option Bytes) := [some [0, 0, 0, 0, 0, 0, 1, 2], none, some [1]]
    session.prepare { query := "q" } threeMarkers = .ok (threeMarked, session.withNextHandle) ∧
    ∃ bound page after row,
      BoundStatement.bind threeMarked [.bigint 258, .null] = .ok bound ∧
      session.receive { statement := .bound bound } (.rows threeMarkers.markers [cells])
        = .ok (page, after) ∧
      page.nth? 0 = some row ∧ row.get 0 = .ok (.bigint 258) ∧ row.get 1 = .ok .null := by
  intro session cells
  have hprepared : session.prepare { query := "q" } threeMarkers
      = .ok (threeMarked, session.withNextHandle) := rfl
  obtain ⟨bound, hbound⟩ :
      ∃ bound, BoundStatement.bind threeMarked [.bigint 258, .null] = .ok bound := ⟨_, rfl⟩
  obtain ⟨encoded, hencoded, -, hrows⟩ :=
    (get_of_bind rfl hprepared [.bigint 258, .null]).2 bound hbound
  obtain ⟨hread, hpage⟩ :=
    hrows session { statement := .bound bound } threeMarkers.markers [cells] rfl rfl
  obtain ⟨⟨page, after⟩, hreceive⟩ := hread ⟨bound, rfl⟩
  obtain rfl : [.bytes [0, 0, 0, 0, 0, 0, 1, 2], .null] = encoded :=
    Except.ok.inj (mapM_eq_ok_iff.mpr hencoded)
  obtain ⟨row, hrow, hback⟩ := hpage page after hreceive 0 cells rfl
    (.cons .bytes (.cons .null (.cons .unset .nil)))
  exact ⟨hprepared, bound, page, after, row, hbound, hreceive, hrow, hback 0 _ rfl trivial,
    hback 1 _ rfl trivial⟩

end Session

end CqlWire
