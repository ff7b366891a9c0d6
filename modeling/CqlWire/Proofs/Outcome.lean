import Mathlib.Data.List.Forall2

/-!
# Opening computations that may fail

A computation in `Except` succeeds only if each of its steps does.  `bind_eq_ok_iff` and
`mapM_eq_ok_iff` take a success apart into the successes of its steps; `bind_eq_error_iff`,
`mapM_eq_error_iff` and `forM_eq_error_iff` lead a failure back to the step that failed.
-/

namespace CqlWire

variable {ε ε' α β : Type}

/-! ### One step after the other -/

theorem bind_eq_ok_iff {first : Except ε α} {next : α → Except ε β} {result : β} :
    (first >>= next) = .ok result ↔ ∃ value, first = .ok value ∧ next value = .ok result := by
  cases first <;> simp [bind, Except.bind]

theorem bind_eq_error_iff {first : Except ε α} {next : α → Except ε β} {error : ε} :
    (first >>= next) = .error error ↔
      first = .error error ∨ ∃ value, first = .ok value ∧ next value = .error error := by
  cases first <;> simp [bind, Except.bind]

theorem map_eq_ok_iff {outcome : Except ε α} {f : α → β} {result : β} :
    (do return f (← outcome)) = (.ok result : Except ε β) ↔
      ∃ value, outcome = .ok value ∧ f value = result := by
  rw [bind_eq_ok_iff]
  simp only [pure, Except.pure, Except.ok.injEq]

theorem map_eq_error_iff {outcome : Except ε α} {f : α → β} {error : ε} :
    (do return f (← outcome)) = (.error error : Except ε β) ↔ outcome = .error error := by
  rw [bind_eq_error_iff]
  exact or_iff_left fun ⟨_, _, h⟩ => nomatch h

theorem mapError_eq_ok_iff {f : ε → ε'} {outcome : Except ε α} {value : α} :
    outcome.mapError f = .ok value ↔ outcome = .ok value := by
  cases outcome <;> simp [Except.mapError]

theorem mapError_eq_error_iff {f : ε → ε'} {outcome : Except ε α} {error : ε'} :
    outcome.mapError f = .error error ↔ ∃ cause, outcome = .error cause ∧ f cause = error := by
  cases outcome <;> simp [Except.mapError]

/-- A check that is made under a condition holds up what follows only if it is made and fails. -/
theorem check_bind_eq_ok_iff {condition : Bool} {check : Except ε Unit}
    {next : Unit → Except ε β} {result : β} :
    (if condition then check >>= next else next ()) = .ok result ↔
      (condition → check = .ok ()) ∧ next () = .ok result := by
  cases condition with
  | false => exact ⟨fun hnext => ⟨nofun, hnext⟩, And.right⟩
  | true =>
    rw [if_pos rfl, bind_eq_ok_iff]
    constructor
    · rintro ⟨⟨⟩, hcheck, hnext⟩
      exact ⟨fun _ => hcheck, hnext⟩
    · rintro ⟨hcheck, hnext⟩
      exact ⟨(), hcheck rfl, hnext⟩

/-! ### Over a list -/

theorem mapM_eq_ok_iff {f : α → Except ε β} {xs : List α} {ys : List β} :
    xs.mapM f = .ok ys ↔ List.Forall₂ (fun x y => f x = .ok y) xs ys := by
  induction xs generalizing ys with
  | nil =>
    rw [List.mapM_nil, List.forall₂_nil_left_iff]
    exact ⟨fun h => (Except.ok.inj h).symm, fun h => h ▸ rfl⟩
  | cons x xs ih =>
    rw [List.mapM_cons, bind_eq_ok_iff, List.forall₂_cons_left_iff]
    constructor
    · rintro ⟨y, hy, h⟩
      obtain ⟨ys', hys', h'⟩ := bind_eq_ok_iff.mp h
      exact ⟨y, ys', hy, ih.mp hys', (Except.ok.inj h').symm⟩
    · rintro ⟨y, ys', hy, hys', rfl⟩
      exact ⟨y, hy, bind_eq_ok_iff.mpr ⟨ys', ih.mpr hys', rfl⟩⟩

/-- If each element is what `g` makes of its result, then so is the list. -/
theorem mapM_eq_ok_iff_eq_map {f : α → Except ε β} {g : β → α} {xs : List α} {ys : List β}
    (h : ∀ x ∈ xs, ∀ y, f x = .ok y ↔ x = g y) : xs.mapM f = .ok ys ↔ xs = ys.map g := by
  rw [mapM_eq_ok_iff, ← List.forall₂_eq_eq_eq, List.forall₂_map_right_iff]
  constructor
  · intro hall
    exact List.forall₂_iff_zip.mpr ⟨hall.length_eq, fun hpair =>
      (h _ (List.of_mem_zip hpair).1 _).mp ((List.forall₂_iff_zip.mp hall).2 hpair)⟩
  · intro hall
    exact List.forall₂_iff_zip.mpr ⟨hall.length_eq, fun hpair =>
      (h _ (List.of_mem_zip hpair).1 _).mpr ((List.forall₂_iff_zip.mp hall).2 hpair)⟩

/-- Elements of related lists are related to those at the same places. -/
theorem exists_getElem?_of_forall₂ {R : α → β → Prop} {xs : List α} {ys : List β} {i : Nat} {x : α}
    (h : List.Forall₂ R xs ys) (hx : xs[i]? = some x) : ∃ y, ys[i]? = some y ∧ R x y := by
  obtain ⟨hi, rfl⟩ := List.getElem?_eq_some_iff.mp hx
  have hi' : i < ys.length := h.length_eq ▸ hi
  exact ⟨ys[i], List.getElem?_eq_getElem hi', h.get hi hi'⟩

/-- Lists whose elements agree on a property have an element with the property together. -/
theorem exists_mem_iff_of_forall₂ {R : α → β → Prop} {p : α → Prop} {q : β → Prop} {xs : List α}
    {ys : List β} (h : List.Forall₂ R xs ys) (hpq : ∀ x y, R x y → (p x ↔ q y)) :
    (∃ x ∈ xs, p x) ↔ ∃ y ∈ ys, q y := by
  induction h with
  | nil => simp
  | cons hxy _ ih => rw [List.exists_mem_cons_iff, List.exists_mem_cons_iff, hpq _ _ hxy, ih]

/-- Checks over a list hold if each of them does. -/
theorem forM_eq_ok_iff {f : α → Except ε Unit} {xs : List α} :
    xs.forM f = .ok () ↔ ∀ x ∈ xs, f x = .ok () := by
  induction xs with
  | nil => exact ⟨fun _ _ hx => absurd hx List.not_mem_nil, fun _ => rfl⟩
  | cons x xs ih =>
    show (f x >>= fun _ => xs.forM f) = _ ↔ _
    rw [bind_eq_ok_iff, List.forall_mem_cons, ← ih]
    constructor
    · rintro ⟨⟨⟩, hx, hxs⟩
      exact ⟨hx, hxs⟩
    · rintro ⟨hx, hxs⟩
      exact ⟨(), hx, hxs⟩

/-- The failure of a list is the failure of the first element that fails. -/
theorem mapM_eq_error_iff {f : α → Except ε β} {xs : List α} {error : ε} :
    xs.mapM f = .error error ↔
      ∃ before x after, xs = before ++ x :: after ∧ (∀ x' ∈ before, ∃ y, f x' = .ok y) ∧
        f x = .error error := by
  induction xs with
  | nil => exact iff_of_false (by rw [List.mapM_nil]; exact nofun) (by simp)
  | cons x xs ih =>
    rw [List.mapM_cons, bind_eq_error_iff]
    constructor
    · rintro (hx | ⟨y, hy, h⟩)
      · exact ⟨[], x, xs, rfl, fun _ h => absurd h List.not_mem_nil, hx⟩
      · rcases bind_eq_error_iff.mp h with h | ⟨ys, -, h⟩
        · obtain ⟨before, x', after, rfl, hbefore, hx'⟩ := ih.mp h
          exact ⟨x :: before, x', after, rfl, List.forall_mem_cons.mpr ⟨⟨y, hy⟩, hbefore⟩, hx'⟩
        · exact absurd h nofun
    · rintro ⟨_ | ⟨_, before⟩, x', after, hxs, hbefore, hx'⟩
      · obtain ⟨rfl, rfl⟩ := List.cons.inj hxs
        exact .inl hx'
      · obtain ⟨rfl, htail⟩ := List.cons.inj hxs
        obtain ⟨⟨y, hy⟩, hbefore⟩ := List.forall_mem_cons.mp hbefore
        have hrest := ih.mpr ⟨before, x', after, htail, hbefore, hx'⟩
        exact .inr ⟨y, hy, bind_eq_error_iff.mpr (.inl hrest)⟩

/-- The failure of checks over a list is the failure of the first one that fails. -/
theorem forM_eq_error_iff {f : α → Except ε Unit} {xs : List α} {error : ε} :
    xs.forM f = .error error ↔
      ∃ before x after, xs = before ++ x :: after ∧ (∀ x' ∈ before, f x' = .ok ()) ∧
        f x = .error error := by
  induction xs with
  | nil => exact iff_of_false nofun (by simp)
  | cons x xs ih =>
    show (f x >>= fun _ => xs.forM f) = _ ↔ _
    rw [bind_eq_error_iff]
    constructor
    · rintro (hx | ⟨⟨⟩, hx, h⟩)
      · exact ⟨[], x, xs, rfl, fun _ h => absurd h List.not_mem_nil, hx⟩
      · obtain ⟨before, x', after, rfl, hbefore, hx'⟩ := ih.mp h
        exact ⟨x :: before, x', after, rfl, List.forall_mem_cons.mpr ⟨hx, hbefore⟩, hx'⟩
    · rintro ⟨_ | ⟨_, before⟩, x', after, hxs, hbefore, hx'⟩
      · obtain ⟨rfl, rfl⟩ := List.cons.inj hxs
        exact .inl hx'
      · obtain ⟨rfl, htail⟩ := List.cons.inj hxs
        obtain ⟨hx, hbefore⟩ := List.forall_mem_cons.mp hbefore
        exact .inr ⟨(), hx, ih.mpr ⟨before, x', after, htail, hbefore, hx'⟩⟩

/-- The failure of a list is the failure of one of its elements. -/
theorem exists_mem_of_mapM_eq_error {f : α → Except ε β} {xs : List α} {error : ε}
    (h : xs.mapM f = .error error) : ∃ x ∈ xs, f x = .error error := by
  obtain ⟨before, x, after, rfl, -, hx⟩ := mapM_eq_error_iff.mp h
  exact ⟨x, List.mem_append_right before List.mem_cons_self, hx⟩

/-- A change of the elements that no step sees is not seen over the list. -/
theorem mapM_mapIdx {f : α → Except ε β} {change : Nat → α → α}
    (h : ∀ i x, f (change i x) = f x) (xs : List α) :
    (xs.mapIdx change).mapM f = xs.mapM f := by
  induction xs generalizing change with
  | nil => rfl
  | cons x xs ih => rw [List.mapIdx_cons, List.mapM_cons, List.mapM_cons, h, ih fun i => h (i + 1)]

/-- A change of the elements that no check sees is not seen by the checks over the list. -/
theorem forM_mapIdx {f : α → Except ε Unit} {change : Nat → α → α}
    (h : ∀ i x, f (change i x) = f x) (xs : List α) :
    (xs.mapIdx change).forM f = xs.forM f := by
  induction xs generalizing change with
  | nil => rfl
  | cons x xs ih =>
    rw [List.mapIdx_cons]
    show (f (change 0 x) >>= fun _ => (xs.mapIdx _).forM f) = (f x >>= fun _ => xs.forM f)
    rw [h, ih fun i => h (i + 1)]

/-- If no element fails, the list succeeds. -/
theorem exists_mapM_eq_ok {f : α → Except ε β} {xs : List α} (h : ∀ x ∈ xs, ∃ y, f x = .ok y) :
    ∃ ys, xs.mapM f = .ok ys := by
  cases hm : xs.mapM f with
  | ok ys => exact ⟨ys, rfl⟩
  | error error =>
    obtain ⟨x, hx, hfailed⟩ := exists_mem_of_mapM_eq_error hm
    obtain ⟨y, hy⟩ := h x hx
    exact absurd (hy.symm.trans hfailed) nofun

/-- If one element fails, the list fails. -/
theorem exists_mapM_eq_error {f : α → Except ε β} {xs : List α} {x : α} {error : ε}
    (hx : x ∈ xs) (h : f x = .error error) : ∃ error', xs.mapM f = .error error' := by
  cases hm : xs.mapM f with
  | error error' => exact ⟨error', rfl⟩
  | ok ys =>
    -- All elements would have succeeded, the one that fails among them.
    obtain ⟨i, hi, rfl⟩ := List.getElem_of_mem hx
    have hall := mapM_eq_ok_iff.mp hm
    have hy := hall.get hi (hall.length_eq ▸ hi)
    exact absurd (h.symm.trans hy) nofun

end CqlWire
