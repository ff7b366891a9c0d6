import CqlWire.Proofs.Outcome
import CqlWire.Request.Field

/-!
# Fields one after the other

The laws of `Encoded.concat`.  It can be written exactly if each of its fields can
(`concat_eq_ok_iff`), it does not matter how the fields are grouped (`concat_append`,
`concat_concat_cons`, `concat_flatMap`), and if it can not be written then one of its fields is to
blame (`exists_mem_of_concat_eq_error`, `exists_concat_eq_error`).
-/

namespace CqlWire.Encoded

/-- Fields are written exactly if each of them is, and then one after the other. -/
theorem concat_eq_ok_iff {fields : List Encoded} {bytes : Bytes} :
    concat fields = .ok bytes ↔
      ∃ pieces, List.Forall₂ (fun field piece => field = .ok piece) fields pieces ∧
        pieces.flatten = bytes := by
  unfold concat
  rw [bind_eq_ok_iff]
  constructor
  · rintro ⟨pieces, hpieces, h⟩
    exact ⟨pieces, mapM_eq_ok_iff.mp hpieces, Except.ok.inj h⟩
  · rintro ⟨pieces, hpieces, rfl⟩
    exact ⟨pieces, mapM_eq_ok_iff.mpr hpieces, rfl⟩

theorem concat_cons_eq_ok_iff {field : Encoded} {fields : List Encoded} {bytes : Bytes} :
    concat (field :: fields) = .ok bytes ↔
      ∃ first rest, field = .ok first ∧ concat fields = .ok rest ∧ first ++ rest = bytes := by
  simp only [concat_eq_ok_iff, List.forall₂_cons_left_iff]
  constructor
  · rintro ⟨_, ⟨first, pieces, hfirst, hpieces, rfl⟩, rfl⟩
    exact ⟨first, pieces.flatten, hfirst, ⟨pieces, hpieces, rfl⟩, rfl⟩
  · rintro ⟨first, _, hfirst, ⟨pieces, hpieces, rfl⟩, rfl⟩
    exact ⟨first :: pieces, ⟨first, pieces, hfirst, hpieces, rfl⟩, rfl⟩

/-! ### Grouping -/

/-- A field is written before the fields that follow it. -/
theorem concat_cons (field : Encoded) (fields : List Encoded) :
    concat (field :: fields) = do return (← field) ++ (← concat fields) := by
  unfold concat
  rw [List.mapM_cons]
  cases field with
  | error error => rfl
  | ok first =>
    cases h : List.mapM id fields with
    | error error => simp only [id_eq, bind, Except.bind]
    | ok pieces => simp only [id_eq, bind, Except.bind, pure, Except.pure, List.flatten_cons]

/-- A single field is written as it is. -/
theorem concat_singleton (field : Encoded) : concat [field] = field := by
  rw [concat_cons]
  cases field with
  | error error => rfl
  | ok first => exact congrArg Except.ok (List.append_nil first)

theorem concat_append (fields fields' : List Encoded) :
    concat (fields ++ fields') = do return (← concat fields) ++ (← concat fields') := by
  induction fields with
  | nil =>
    rw [List.nil_append]
    cases concat fields' <;> rfl
  | cons field fields ih =>
    rw [List.cons_append, concat_cons, concat_cons, ih]
    -- The first field that can not be written is the same on both sides.
    cases field with
    | error error => rfl
    | ok first =>
      cases h : concat fields with
      | error error => simp only [bind, Except.bind]
      | ok rest =>
        cases h' : concat fields' with
        | error error => simp only [bind, Except.bind, pure, Except.pure]
        | ok rest' => simp only [bind, Except.bind, pure, Except.pure, List.append_assoc]

/-- Fields that stand together at the front may as well stand one by one. -/
theorem concat_concat_cons (fields fields' : List Encoded) :
    concat (concat fields :: fields') = concat (fields ++ fields') := by
  rw [concat_cons, concat_append]

theorem concat_flatMap {α : Type} (write : α → List Encoded) (xs : List α) :
    concat (xs.flatMap write) = concat (xs.map fun x => concat (write x)) := by
  induction xs with
  | nil => rfl
  | cons x xs ih => rw [List.flatMap_cons, List.map_cons, concat_append, concat_cons, ih]

/-! ### Failures -/

/-- If fields can not be written, the reason is that of one of them. -/
theorem exists_mem_of_concat_eq_error {fields : List Encoded} {error : FrameError}
    (h : concat fields = .error error) : ∃ field ∈ fields, field = .error error := by
  unfold concat at h
  rcases bind_eq_error_iff.mp h with h | ⟨pieces, -, h⟩
  · exact exists_mem_of_mapM_eq_error h
  · exact absurd h nofun

/-- Fields of which one can not be written can not be written. -/
theorem exists_concat_eq_error {fields : List Encoded} {field : Encoded} {error : FrameError}
    (hfield : field ∈ fields) (h : field = .error error) :
    ∃ error', concat fields = .error error' := by
  obtain ⟨error', h'⟩ := exists_mapM_eq_error (f := id) hfield h
  exact ⟨error', by rw [concat, h']; rfl⟩

end CqlWire.Encoded
