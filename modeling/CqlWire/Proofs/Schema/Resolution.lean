import CqlWire.Proofs.Reason
import CqlWire.Schema.Column

/-!
# Resolving the types of columns

The server names the native types by numbers.  What it says of a type is undone by
`ColumnType.description`: a type is resolved to the one type that is described so
(`WireType.resolve_eq_ok_iff`), and thus keeps its structure and all names in it, and no two
different descriptions are taken for the same type.  It is resolved unless one of the numbers in it
is that of no native type, and the first such number is reported (`WireType.failsBy_resolve`).

`MetadataBlock.columns_of_descriptions` says the same of a block of columns, and that nothing else
in the block matters.
-/

namespace CqlWire

/-! ### Native types -/

namespace NativeType

variable {id : UInt16}

/-- Whether a number is that of a native type. -/
def IsId (id : UInt16) : Prop := ∃ type : NativeType, type.id = id

theorem ofId?_eq_some_iff {type : NativeType} : ofId? id = some type ↔ id = type.id :=
  ⟨eq_id_of_ofId?, fun h => h ▸ ofId?_id type⟩

theorem ofId?_eq_none_iff : ofId? id = none ↔ ¬ IsId id := by
  rw [Option.eq_none_iff_forall_ne_some, IsId, not_exists]
  exact forall_congr' fun type => not_congr (ofId?_eq_some_iff.trans eq_comm)

instance : Decidable (IsId id) :=
  decidable_of_iff (ofId? id ≠ none) (not_congr ofId?_eq_none_iff |>.trans not_not)

end NativeType

/-- How the server describes a type. -/
def ColumnType.description : ColumnType → WireType
  | native type => .native type.id
  | custom className => .custom className
  | list element => .list element.description
  | set element => .set element.description
  | map key value => .map key.description value.description
  | udt keyspace name fields => .udt keyspace name (ofFields fields)
  | tuple elements => .tuple (ofAll elements)
where
  ofAll : List ColumnType → List WireType
    | [] => []
    | element :: elements => element.description :: ofAll elements
  ofFields : List (String × ColumnType) → List (String × WireType)
    | [] => []
    | (label, field) :: fields => (label, field.description) :: ofFields fields

namespace ColumnType

theorem ofAll_eq_map (elements : List ColumnType) :
    description.ofAll elements = elements.map description := by
  induction elements with
  | nil => rfl
  | cons element elements ih => rw [description.ofAll, ih, List.map_cons]

theorem ofFields_eq_map (fields : List (String × ColumnType)) :
    description.ofFields fields = fields.map fun field => (field.1, field.2.description) := by
  induction fields with
  | nil => rfl
  | cons field fields ih => rw [description.ofFields, ih, List.map_cons]

end ColumnType

namespace WireType

variable {wire : WireType} {type : ColumnType}

/-! ### Induction on types -/

/-- Induction on a type, over the types of all fields of a user-defined type and of all elements of
a tuple. -/
@[elab_as_elim, induction_eliminator]
theorem induction {motive : WireType → Prop}
    (native : ∀ id, motive (.native id))
    (custom : ∀ className, motive (.custom className))
    (list : ∀ element, motive element → motive (.list element))
    (set : ∀ element, motive element → motive (.set element))
    (map : ∀ key value, motive key → motive value → motive (.map key value))
    (udt : ∀ keyspace name fields, (∀ field ∈ fields, motive field.2) →
      motive (.udt keyspace name fields))
    (tuple : ∀ elements, (∀ element ∈ elements, motive element) → motive (.tuple elements))
    (wire : WireType) : motive wire :=
  wire.rec (motive_2 := fun fields => ∀ field ∈ fields, motive field.2)
    (motive_3 := fun elements => ∀ element ∈ elements, motive element)
    (motive_4 := fun field => motive field.2)
    native custom list set map udt tuple
    (fun _ h => absurd h List.not_mem_nil)
    (fun _ _ hfirst hrest => List.forall_mem_cons.mpr ⟨hfirst, hrest⟩)
    (fun _ h => absurd h List.not_mem_nil)
    (fun _ _ hfirst hrest => List.forall_mem_cons.mpr ⟨hfirst, hrest⟩)
    (fun _ _ hfield => hfield)

theorem resolveAll_eq_mapM (elements : List WireType) :
    resolve.resolveAll elements = elements.mapM resolve := by
  induction elements with
  | nil => rfl
  | cons element elements ih => rw [resolve.resolveAll, ih, List.mapM_cons]

theorem resolveFields_eq_mapM (fields : List (String × WireType)) :
    resolve.resolveFields fields
      = fields.mapM fun field => do return (field.1, ← field.2.resolve) := by
  induction fields with
  | nil => rfl
  | cons field fields ih =>
    rw [resolve.resolveFields, ih, List.mapM_cons]
    simp only [bind_assoc, pure_bind]

/-! ### Types that are resolved -/

/-- A type is resolved to the one type that is described so. -/
theorem resolve_eq_ok_iff : wire.resolve = .ok type ↔ wire = type.description := by
  induction wire generalizing type with
  | native id =>
    have hnative : (native id).resolve = .ok type ↔
        ∃ found, NativeType.ofId? id = some found ∧ .native found = type := by
      rw [resolve]
      cases NativeType.ofId? id <;> simp
    simp only [hnative, NativeType.ofId?_eq_some_iff]
    constructor
    · rintro ⟨found, rfl, rfl⟩
      rfl
    · intro h
      cases type with
      | native found => exact ⟨found, native.inj h, rfl⟩
      | _ => exact nomatch h
  | custom className =>
    rw [resolve, Except.ok.injEq]
    constructor
    · rintro rfl
      rfl
    · intro h
      cases type with
      | custom found => rw [custom.inj h]
      | _ => exact nomatch h
  | list element ih =>
    rw [resolve, map_eq_ok_iff]
    constructor
    · rintro ⟨found, hfound, rfl⟩
      rw [ih.mp hfound, ColumnType.description]
    · intro h
      cases type with
      | list found => exact ⟨found, ih.mpr (list.inj h), rfl⟩
      | _ => exact nomatch h
  | set element ih =>
    rw [resolve, map_eq_ok_iff]
    constructor
    · rintro ⟨found, hfound, rfl⟩
      rw [ih.mp hfound, ColumnType.description]
    · intro h
      cases type with
      | set found => exact ⟨found, ih.mpr (set.inj h), rfl⟩
      | _ => exact nomatch h
  | map key value ihkey ihvalue =>
    rw [resolve, bind_eq_ok_iff]
    constructor
    · rintro ⟨key', hkey, h⟩
      obtain ⟨value', hvalue, rfl⟩ := map_eq_ok_iff.mp h
      rw [ihkey.mp hkey, ihvalue.mp hvalue, ColumnType.description]
    · intro h
      cases type with
      | map key' value' =>
        obtain ⟨hkey, hvalue⟩ := map.inj h
        exact ⟨key', ihkey.mpr hkey, map_eq_ok_iff.mpr ⟨value', ihvalue.mpr hvalue, rfl⟩⟩
      | _ => exact nomatch h
  | udt keyspace name fields ih =>
    have hfields (found : List (String × ColumnType)) :
        resolve.resolveFields fields = .ok found ↔
          fields = ColumnType.description.ofFields found := by
      rw [resolveFields_eq_mapM, ColumnType.ofFields_eq_map]
      refine mapM_eq_ok_iff_eq_map fun field hfield result => ?_
      simp only [map_eq_ok_iff, ih field hfield, Prod.ext_iff]
      constructor
      · rintro ⟨type, htype, hlabel, rfl⟩
        exact ⟨hlabel, htype⟩
      · rintro ⟨hlabel, htype⟩
        exact ⟨result.2, htype, hlabel, rfl⟩
    simp only [resolve, map_eq_ok_iff, hfields]
    constructor
    · rintro ⟨found, rfl, rfl⟩
      rfl
    · intro h
      cases type with
      | udt _ _ found =>
        obtain ⟨rfl, rfl, hfound⟩ := udt.inj h
        exact ⟨found, hfound, rfl⟩
      | _ => exact nomatch h
  | tuple elements ih =>
    have helements (found : List ColumnType) :
        resolve.resolveAll elements = .ok found ↔
          elements = ColumnType.description.ofAll found := by
      rw [resolveAll_eq_mapM, ColumnType.ofAll_eq_map]
      exact mapM_eq_ok_iff_eq_map fun element helement _ => ih element helement
    simp only [resolve, map_eq_ok_iff, helements]
    constructor
    · rintro ⟨found, rfl, rfl⟩
      rfl
    · intro h
      cases type with
      | tuple found => exact ⟨found, tuple.inj h, rfl⟩
      | _ => exact nomatch h

/-- No two different descriptions are taken for the same type. -/
theorem eq_of_resolve {other : WireType} (h : wire.resolve = .ok type)
    (hother : other.resolve = .ok type) : wire = other := by
  rw [resolve_eq_ok_iff.mp h, resolve_eq_ok_iff.mp hother]

/-! ### Types that are not resolved -/

/-- The numbers in a type, from left to right. -/
def ids : WireType → List UInt16
  | native id => [id]
  | custom _ => []
  | list element => element.ids
  | set element => element.ids
  | map key value => key.ids ++ value.ids
  | udt _ _ fields => ofFields fields
  | tuple elements => ofAll elements
where
  ofAll : List WireType → List UInt16
    | [] => []
    | element :: elements => element.ids ++ ofAll elements
  ofFields : List (String × WireType) → List UInt16
    | [] => []
    | (_, field) :: fields => field.ids ++ ofFields fields

theorem ofAll_eq_flatMap (elements : List WireType) :
    ids.ofAll elements = elements.flatMap ids := by
  induction elements with
  | nil => rfl
  | cons element elements ih => rw [ids.ofAll, ih, List.flatMap_cons]

theorem ofFields_eq_flatMap (fields : List (String × WireType)) :
    ids.ofFields fields = fields.flatMap fun field => field.2.ids := by
  induction fields with
  | nil => rfl
  | cons field fields ih => rw [ids.ofFields, ih, List.flatMap_cons]

/-- What is wrong with a number in a type: it is that of no native type. -/
def IsUnknown (id : UInt16) (fault : ProtocolFault) : Prop :=
  ¬ NativeType.IsId id ∧ fault = .unknownType id

/-- A type is resolved unless a number in it is unknown, and the first such number is reported. -/
theorem failsBy_resolve (wire : WireType) : FailsBy wire.resolve (wire.ids.map IsUnknown) := by
  induction wire with
  | native id =>
    refine .of_eq_error_iff fun fault => ?_
    rw [resolve, IsUnknown, ← NativeType.ofId?_eq_none_iff]
    cases NativeType.ofId? id <;> simp [eq_comm]
  | custom className => exact .ok _
  | list element ih => exact ih.map ColumnType.list
  | set element ih => exact ih.map ColumnType.set
  | map key value ihkey ihvalue =>
    rw [ids, List.map_append]
    exact ihkey.bind fun key' _ => ihvalue.map (ColumnType.map key')
  | udt keyspace name fields ih =>
    rw [resolve, resolveFields_eq_mapM, ids, ofFields_eq_flatMap, List.map_flatMap]
    exact (FailsBy.mapM fun field hfield => (ih field hfield).map (field.1, ·)).map _
  | tuple elements ih =>
    rw [resolve, resolveAll_eq_mapM, ids, ofAll_eq_flatMap, List.map_flatMap]
    exact (FailsBy.mapM ih).map _

end WireType

/-! ### Columns -/

namespace ColumnDescription

variable {description : ColumnDescription} {column : Column}

/-- Whether a description is one of a column. -/
structure Describes (description : ColumnDescription) (column : Column) : Prop where
  keyspace_eq : description.keyspace = column.keyspace
  table_eq : description.table = column.table
  name_eq : description.name = column.name
  type_eq : description.type = column.type.description

theorem resolve_eq_ok_iff :
    description.resolve = .ok column ↔
      ∃ type, description.type.resolve = .ok type ∧
        column = ⟨description.keyspace, description.table, description.name, type⟩ := by
  rw [resolve, map_eq_ok_iff]
  simp only [eq_comm (b := column)]

theorem resolve_eq_ok_iff_describes :
    description.resolve = .ok column ↔ description.Describes column := by
  obtain ⟨keyspace, table, name, type⟩ := column
  rw [resolve_eq_ok_iff]
  constructor
  · rintro ⟨found, hfound, ⟨⟩⟩
    exact ⟨rfl, rfl, rfl, WireType.resolve_eq_ok_iff.mp hfound⟩
  · rintro ⟨rfl, rfl, rfl, htype⟩
    exact ⟨type, WireType.resolve_eq_ok_iff.mpr htype, rfl⟩

theorem failsBy_resolve (description : ColumnDescription) :
    FailsBy description.resolve (description.type.ids.map WireType.IsUnknown) :=
  description.type.failsBy_resolve.map _

/-- A description without the place that the server declares. -/
def withoutIndex (description : ColumnDescription) : ColumnDescription :=
  { description with index := 0 }

end ColumnDescription

theorem exists_column_of_types_eq {left right : Columns} {i : Nat} {column : Column}
    (htypes : left.map (·.type) = right.map (·.type)) (hcolumn : right[i]? = some column) :
    ∃ found, left[i]? = some found ∧ found.type = column.type := by
  have htype := congrArg (fun types : List ColumnType => types[i]?) htypes
  simp only [List.getElem?_map, hcolumn, Option.map_some, Option.map_eq_some_iff] at htype
  exact htype

namespace MetadataBlock

/-- The numbers in the types of all columns of a block, from left to right. -/
def ids (metadata : MetadataBlock) : List UInt16 :=
  metadata.descriptions.flatMap fun description => description.type.ids

theorem failsBy_columns (metadata : MetadataBlock) :
    FailsBy metadata.columns (metadata.ids.map WireType.IsUnknown) := by
  rw [columns, ids, List.map_flatMap]
  exact FailsBy.mapM fun description _ => description.failsBy_resolve

/-- Columns that are described with the same types have the same types. -/
theorem exists_columns_eq_ok {metadata other : MetadataBlock} {columns : Columns}
    (htypes : metadata.descriptions.map (·.type) = other.descriptions.map (·.type))
    (hother : other.columns = .ok columns) :
    ∃ found, metadata.columns = .ok found ∧ found.map (·.type) = columns.map (·.type) := by
  simp only [MetadataBlock.columns, mapM_eq_ok_iff] at hother ⊢
  generalize other.descriptions = others at htypes hother
  generalize metadata.descriptions = descriptions at htypes ⊢
  induction hother generalizing descriptions with
  | nil => exact ⟨[], List.map_eq_nil_iff.mp htypes ▸ .nil, rfl⟩
  | cons hfirst hrest ih =>
    obtain ⟨description, descriptions, rfl, htype, htypes⟩ := List.map_eq_cons_iff.mp htypes
    obtain ⟨type, hresolved, rfl⟩ := ColumnDescription.resolve_eq_ok_iff.mp hfirst
    obtain ⟨found, hfound, hsame⟩ := ih descriptions htypes
    have hdescribed := ColumnDescription.resolve_eq_ok_iff.mpr
      ⟨type, (congrArg WireType.resolve htype).trans hresolved, rfl⟩
    exact ⟨_ :: found, .cons hdescribed hfound, congrArg (type :: ·) hsame⟩

theorem columns_eq_of_descriptions {metadata other : MetadataBlock}
    (h : other.descriptions.map (·.withoutIndex) = metadata.descriptions.map (·.withoutIndex)) :
    other.columns = metadata.columns := by
  have hcolumns (block : MetadataBlock) :
      block.columns = (block.descriptions.map (·.withoutIndex)).mapM ColumnDescription.resolve := by
    rw [columns, List.mapM_map]
    rfl
  rw [hcolumns, hcolumns, h]

/-- **Columns are resolved as they are described, or the first unknown number is reported.**  A
block is resolved exactly if all numbers in its types, however deep, are those of native types.
Then there is one column for each description, in order, with the same names and with the one type
that is described so: a type keeps its structure, its names and the order of its parts, and no two
different types of the server are resolved to the same type.  Otherwise the fault is that of the
first number that is unknown, over the columns and within each type from left to right.  Neither the
declared count nor the declared places matter, nor anything else but the descriptions. -/
theorem columns_of_descriptions (metadata : MetadataBlock) :
    ((∃ columns, metadata.columns = .ok columns) ↔ ∀ id ∈ metadata.ids, NativeType.IsId id) ∧
    (∀ columns, metadata.columns = .ok columns ↔
      List.Forall₂ ColumnDescription.Describes metadata.descriptions columns) ∧
    (∀ (wire other : WireType) (type : ColumnType), wire.resolve = .ok type →
      other.resolve = .ok type → wire = other) ∧
    (∀ fault, metadata.columns = .error fault ↔
      ∃ before id after, metadata.ids = before ++ id :: after ∧
        (∀ known ∈ before, NativeType.IsId known) ∧ ¬ NativeType.IsId id ∧
        fault = .unknownType id) ∧
    ∀ other : MetadataBlock,
      other.descriptions.map (·.withoutIndex) = metadata.descriptions.map (·.withoutIndex) →
      other.columns = metadata.columns := by
  have hknown (id : UInt16) : (∀ fault, ¬ WireType.IsUnknown id fault) ↔ NativeType.IsId id := by
    simp [WireType.IsUnknown]
  refine ⟨?_, fun columns => ?_, fun wire other type => WireType.eq_of_resolve, fun fault => ?_,
    fun other => columns_eq_of_descriptions⟩
  · rw [metadata.failsBy_columns.exists_eq_ok_iff]
    simp only [List.forall_mem_map, hknown]
  · simp only [MetadataBlock.columns, mapM_eq_ok_iff,
      ColumnDescription.resolve_eq_ok_iff_describes]
  · rw [metadata.failsBy_columns fault, isFirst_ofElements_iff]
    simp only [hknown]
    rfl

/-- Two columns at the same declared place, in a block that declares nine.  The first number that is
unknown is that of the keys of a map, inside a user-defined type. -/
def unknownKeys : MetadataBlock where
  descriptions := [
    ⟨"k", "t", "a", 7, .udt "k" "u" [("f", .tuple [.native 0x09, .list (.native 0x0D)]),
      ("g", .map (.native 0x0A) (.native 0x63))]⟩,
    ⟨"k", "t", "b", 7, .native 0x63⟩]
  columnCount := 9

/-- Of the unknown numbers the first one is reported, also for the two columns in a block that
declares two.  A number is not taken for that of a counter. -/
theorem columns_of_descriptions_of_unknownKeys :
    unknownKeys.ids = [0x09, 0x0D, 0x0A, 0x63, 0x63] ∧
      unknownKeys.columns = .error (.unknownType 0x0A) ∧
      { unknownKeys with columnCount := 2 }.columns = unknownKeys.columns ∧
      (WireType.native 0x02).resolve ≠ (WireType.native 0x05).resolve := by
  obtain ⟨-, -, hinjective, hfault, hother⟩ := columns_of_descriptions unknownKeys
  have hbefore : ∀ id ∈ [0x09, 0x0D], NativeType.IsId id :=
    List.forall_mem_cons.mpr ⟨⟨.int, rfl⟩, List.forall_mem_singleton.mpr ⟨.text, rfl⟩⟩
  refine ⟨rfl, (hfault _).mpr ⟨[0x09, 0x0D], 0x0A, [0x63, 0x63], rfl, hbefore, by decide, rfl⟩,
    hother _ rfl, fun hsame => ?_⟩
  have hbigint : (WireType.native 0x02).resolve = .ok (.native .bigint) := rfl
  have hsameId := WireType.native.inj (hinjective _ _ _ hbigint (hsame.symm.trans hbigint))
  exact absurd hsameId (by decide)

end MetadataBlock

end CqlWire
