import CqlWire.Proofs.LastGiven
import CqlWire.Statement.Simple
import Mathlib.Data.List.Nodup

/-!
# Named values of a statement

Named values are kept like the entries of a map that remembers the order of its keys: a new name
goes to the end, and a name that is there already keeps its place and gets the new value.  After any
run of calls the names are those of the calls, each at the place of its first call
(`SimpleStatement.names_withAllNamed`), and each has the value of its last call
(`SimpleStatement.lastOf?_of_mem_named`).  This determines the named values
(`SimpleStatement.named_withAllNamed_eq`).
-/

namespace CqlWire

variable {named : List (String × Value)} {name : String} {value : Value}

/-! ### One call -/

theorem names_setNamed (named : List (String × Value)) (name : String) (value : Value) :
    (setNamed name value named).map (·.1)
      = if name ∈ named.map (·.1) then named.map (·.1) else named.map (·.1) ++ [name] := by
  induction named with
  | nil => rfl
  | cons pair named ih =>
    obtain ⟨known, old⟩ := pair
    rw [setNamed]
    by_cases hknown : known = name
    · have hmem : name ∈ ((known, old) :: named).map (·.1) := by
        rw [← hknown]
        exact List.mem_cons_self
      rw [if_pos hknown, if_pos hmem]
      rfl
    · have hmem : name ∈ ((known, old) :: named).map (·.1) ↔ name ∈ named.map (·.1) := by
        rw [List.map_cons, List.mem_cons, or_iff_right (Ne.symm hknown)]
      rw [if_neg hknown, List.map_cons, ih]
      simp only [hmem]
      split_ifs <;> rfl

/-- The name gets its value, and the other names keep theirs. -/
theorem mem_setNamed (hnodup : (named.map (·.1)).Nodup) {pair : String × Value}
    (h : pair ∈ setNamed name value named) :
    pair = (name, value) ∨ (pair.1 ≠ name ∧ pair ∈ named) := by
  induction named with
  | nil => exact .inl (List.mem_singleton.mp h)
  | cons first named ih =>
    obtain ⟨known, old⟩ := first
    obtain ⟨hfirst, hrest⟩ := List.nodup_cons.mp hnodup
    rw [setNamed] at h
    by_cases hknown : known = name
    · rw [if_pos hknown] at h
      rcases List.mem_cons.mp h with rfl | hmem
      · exact .inl (by rw [hknown])
      · -- The name stands at the front, so it is not among the others.
        refine .inr ⟨fun hname => hfirst ?_, List.mem_cons_of_mem _ hmem⟩
        have hnames : pair.1 ∈ named.map (·.1) := List.mem_map_of_mem hmem
        rwa [hname, ← hknown] at hnames
    · rw [if_neg hknown] at h
      rcases List.mem_cons.mp h with rfl | hmem
      · exact .inr ⟨hknown, List.mem_cons_self⟩
      · rcases ih hrest hmem with hset | ⟨hother, hkept⟩
        · exact .inl hset
        · exact .inr ⟨hother, List.mem_cons_of_mem _ hkept⟩

/-! ### Values of names -/

/-- Named values are the same if their names are, in order, and each has the value of its name. -/
theorem eq_of_names_eq {named other : List (String × Value)} {valueOf : String → Option Value}
    (hnames : other.map (·.1) = named.map (·.1))
    (hnamed : ∀ pair ∈ named, valueOf pair.1 = some pair.2)
    (hother : ∀ pair ∈ other, valueOf pair.1 = some pair.2) : other = named := by
  induction named generalizing other with
  | nil => exact List.map_eq_nil_iff.mp hnames
  | cons pair named ih =>
    cases other with
    | nil => exact nomatch hnames
    | cons first other =>
      obtain ⟨hpair, hnamed⟩ := List.forall_mem_cons.mp hnamed
      obtain ⟨hfirst, hother⟩ := List.forall_mem_cons.mp hother
      obtain ⟨hname, hnames⟩ := List.cons.inj hnames
      have hname : first.1 = pair.1 := hname
      rw [hname] at hfirst
      have hvalue : first.2 = pair.2 := Option.some.inj (hfirst.symm.trans hpair)
      rw [Prod.ext hname hvalue, ih hnames hnamed hother]

/-! ### Runs of calls -/

/-- A name goes to the end of the names so far, unless it is one of them. -/
theorem eraseDups_concat (names : List String) (name : String) :
    (names ++ [name]).eraseDups
      = if name ∈ names then names.eraseDups else names.eraseDups ++ [name] := by
  rw [List.eraseDups_append]
  split_ifs with hmem
  · have hnone : [name].removeAll names = [] := by simp [List.removeAll, hmem]
    rw [hnone, List.eraseDups_nil, List.append_nil]
  · have hall : [name].removeAll names = [name] := by simp [List.removeAll, hmem]
    rw [hall]
    rfl

namespace SimpleStatement

/-- The statement after named values were given one after the other. -/
def withAllNamed (statement : SimpleStatement) (calls : List (String × Value)) : SimpleStatement :=
  calls.foldl (fun statement call => statement.withNamed call.1 call.2) statement

theorem withAllNamed_concat (statement : SimpleStatement) (calls : List (String × Value))
    (last : String × Value) :
    statement.withAllNamed (calls ++ [last])
      = (statement.withAllNamed calls).withNamed last.1 last.2 :=
  List.foldl_concat ..

theorem positional_withAllNamed (statement : SimpleStatement) (calls : List (String × Value)) :
    (statement.withAllNamed calls).positional = statement.positional := by
  induction calls using List.reverseRecOn with
  | nil => rfl
  | append_singleton calls last ih => rw [withAllNamed_concat, withNamed, ih]

variable {statement : SimpleStatement}

/-- The names are in the order of their first calls. -/
theorem names_withAllNamed (hnone : statement.named = []) (calls : List (String × Value)) :
    (statement.withAllNamed calls).named.map (·.1) = (calls.map (·.1)).eraseDups := by
  induction calls using List.reverseRecOn with
  | nil =>
    rw [withAllNamed, List.foldl_nil, hnone]
    rfl
  | append_singleton calls last ih =>
    rw [withAllNamed_concat, withNamed, names_setNamed, ih, List.map_append, List.map_singleton,
      eraseDups_concat]
    simp only [List.mem_eraseDups]

theorem nodup_names_withAllNamed (hnone : statement.named = []) (calls : List (String × Value)) :
    ((statement.withAllNamed calls).named.map (·.1)).Nodup := by
  induction calls using List.reverseRecOn with
  | nil =>
    rw [withAllNamed, List.foldl_nil, hnone]
    exact List.nodup_nil
  | append_singleton calls last ih =>
    rw [withAllNamed_concat, withNamed, names_setNamed]
    split_ifs with hmem
    · exact ih
    · rw [← List.concat_eq_append, List.nodup_concat]
      exact ⟨hmem, ih⟩

/-- Each name has the value of its last call. -/
theorem lastOf?_of_mem_named (hnone : statement.named = []) {calls : List (String × Value)}
    {pair : String × Value} (h : pair ∈ (statement.withAllNamed calls).named) :
    lastOf? calls pair.1 = some pair.2 := by
  induction calls using List.reverseRecOn with
  | nil =>
    rw [withAllNamed, List.foldl_nil, hnone] at h
    exact absurd h List.not_mem_nil
  | append_singleton calls last ih =>
    rw [withAllNamed_concat, withNamed] at h
    rw [lastOf?_concat]
    rcases mem_setNamed (nodup_names_withAllNamed hnone calls) h with rfl | ⟨hother, hmem⟩
    · exact if_pos rfl
    · rw [if_neg (Ne.symm hother), ih hmem]

/-- Runs with the same names, in the order of their first calls, and the same last values give the
same named values. -/
theorem named_withAllNamed_eq {other : SimpleStatement} {calls calls' : List (String × Value)}
    (hnone : statement.named = []) (hnone' : other.named = [])
    (hnames : (calls'.map (·.1)).eraseDups = (calls.map (·.1)).eraseDups)
    (hlast : ∀ name, lastOf? calls' name = lastOf? calls name) :
    (other.withAllNamed calls').named = (statement.withAllNamed calls).named := by
  have hsame : (other.withAllNamed calls').named.map (·.1)
      = (statement.withAllNamed calls).named.map (·.1) := by
    rw [names_withAllNamed hnone', names_withAllNamed hnone, hnames]
  refine eq_of_names_eq hsame (fun pair hpair => lastOf?_of_mem_named hnone hpair) ?_
  intro pair hpair
  rw [← hlast]
  exact lastOf?_of_mem_named hnone' hpair

end SimpleStatement

end CqlWire
