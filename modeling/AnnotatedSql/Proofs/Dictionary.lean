import AnnotatedSql.Dictionary
import Mathlib

/-!
# Values that are assigned to names

In a dictionary a name has the value that was assigned to it last, and the
names stand in the order in which they were first assigned.  So nothing is lost
exactly when every name is assigned once, and then the dictionary is the list
of its assignments.
-/

namespace AnnotatedSql

namespace Dictionary

variable {Value : Type}

@[simp]
theorem names_cons
    (entry : Text × Value)
    (entries : Dictionary Value) :
    names (entry :: entries) = entry.1 :: entries.names :=
  rfl

@[simp]
theorem names_append
    (entries entries' : Dictionary Value) :
    names (entries ++ entries') = entries.names ++ entries'.names :=
  List.map_append

@[simp]
theorem contains_iff_mem_names
    {name : Text}
    {entries : Dictionary Value} :
    entries.contains name = true ↔ name ∈ entries.names := by
  simp [contains, get?, names, List.lookup_isSome_iff]

theorem exists_get?_of_mem_names
    {name : Text}
    {entries : Dictionary Value}
    (known : name ∈ entries.names) :
    ∃ value, entries.get? name = some value :=
  Option.isSome_iff_exists.1 (contains_iff_mem_names.2 known)

@[simp]
theorem get?_eq_none_iff
    {name : Text}
    {entries : Dictionary Value} :
    entries.get? name = none ↔ name ∉ entries.names := by
  rw [← contains_iff_mem_names, contains, Option.not_isSome_iff_eq_none]

@[simp]
theorem get?_cons
    (wanted : Text)
    (entry : Text × Value)
    (entries : Dictionary Value) :
    get? wanted (entry :: entries) =
      if wanted = entry.1 then some entry.2 else get? wanted entries := by
  rw [get?, List.lookup_cons]
  by_cases same : wanted = entry.1
  · simp [same]
  · rw [if_neg same, beq_eq_false_iff_ne.2 same]
    rfl

@[simp]
theorem get?_put
    (wanted name : Text)
    (value : Value)
    (entries : Dictionary Value) :
    get? wanted (put name value entries) =
      if wanted = name then some value else get? wanted entries := by
  induction entries with
  | nil => exact get?_cons wanted (name, value) []
  | cons entry entries induction_hypothesis =>
      rw [put]
      by_cases same : name = entry.1
      · rw [if_pos same, get?_cons, get?_cons, ← same]
        split_ifs <;> rfl
      · rw [if_neg same, get?_cons, get?_cons, induction_hypothesis]
        split_ifs with first second
        · exact absurd (second.symm.trans first) same
        all_goals rfl

@[simp]
theorem names_put
    (name : Text)
    (value : Value)
    (entries : Dictionary Value) :
    (put name value entries).names =
      if name ∈ entries.names then entries.names
      else entries.names ++ [name] := by
  induction entries with
  | nil => rfl
  | cons entry entries induction_hypothesis =>
      rw [put]
      by_cases same : name = entry.1
      · simp [same, names]
      · rw [if_neg same]
        simp only [names, List.map_cons, List.mem_cons, same, false_or]
          at induction_hypothesis ⊢
        rw [induction_hypothesis]
        by_cases known : name ∈ entries.map Prod.fst <;> simp [known]

/-- With distinct names a name has the value that stands beside it. -/
theorem get?_eq_some_iff
    {entries : Dictionary Value}
    (distinct : entries.names.Nodup)
    {name : Text}
    {value : Value} :
    entries.get? name = some value ↔ (name, value) ∈ entries := by
  induction entries with
  | nil => simp [get?]
  | cons entry entries induction_hypothesis =>
      rw [names_cons, List.nodup_cons] at distinct
      rcases distinct with ⟨fresh, distinct⟩
      rw [get?_cons, List.mem_cons]
      by_cases same : name = entry.1
      · have notLater : (name, value) ∉ entries := by
          intro later
          exact fresh (List.mem_map.2 ⟨_, later, same⟩)
        rw [if_pos same, or_iff_left notLater, Prod.ext_iff, Option.some.injEq]
        exact ⟨fun value_eq => ⟨same, value_eq.symm⟩, fun both => both.2.symm⟩
      · have notFirst : (name, value) ≠ entry := by
          rintro rfl
          exact same rfl
        rw [if_neg same, or_iff_right notFirst]
        exact induction_hypothesis distinct

/-- A new name is assigned its value behind the others. -/
theorem put_of_notMem_names
    {entries : Dictionary Value}
    {name : Text}
    (fresh : name ∉ entries.names)
    (value : Value) :
    put name value entries = entries ++ [(name, value)] := by
  induction entries with
  | nil => rfl
  | cons entry entries induction_hypothesis =>
      rw [names_cons, List.mem_cons, not_or] at fresh
      rw [put, if_neg fresh.1, induction_hypothesis fresh.2, List.cons_append]

/-! ## Assignments in turn -/

theorem putAll_append
    (entries first second : Dictionary Value) :
    putAll entries (first ++ second) = putAll (putAll entries first) second :=
  List.foldl_append

theorem putAll_append_singleton
    (entries additions : Dictionary Value)
    (last : Text × Value) :
    putAll entries (additions ++ [last]) =
      put last.1 last.2 (putAll entries additions) :=
  putAll_append entries additions [last]

/-- Names stand in the order in which they were first assigned. -/
@[simp]
theorem names_putAll_nil (assigned : Dictionary Value) :
    (putAll [] assigned).names = (assigned.map Prod.fst).eraseDups := by
  induction assigned using List.reverseRecOn with
  | nil => rfl
  | append_singleton earlier last induction_hypothesis =>
      rw [putAll_append_singleton, names_put, induction_hypothesis,
        List.map_append, List.eraseDups_append, List.map_singleton,
        List.removeAll]
      by_cases known : last.1 ∈ earlier.map Prod.fst
      · rw [if_pos (List.mem_eraseDups.2 known), List.filter_cons_of_neg]
        · exact (List.append_nil _).symm
        · simpa using known
      · rw [if_neg (known ∘ List.mem_eraseDups.1), List.filter_cons_of_pos]
        · rfl
        · simpa using known

/-- Where a name is assigned again, its place does not change. -/
theorem names_putAll_nil_append_cons
    {earlier : Dictionary Value}
    {again : Text × Value}
    (known : again.1 ∈ earlier.names)
    (later : Dictionary Value) :
    (putAll [] (earlier ++ again :: later)).names =
      (putAll [] (earlier ++ later)).names := by
  rw [names_putAll_nil, names_putAll_nil, List.map_append, List.map_append,
    List.eraseDups_append, List.eraseDups_append, List.map_cons,
    List.removeAll, List.removeAll, List.filter_cons_of_neg]
  rw [names] at known
  simpa using known

/-- A name has the value that was assigned to it last. -/
@[simp]
theorem get?_putAll_nil
    (assigned : Dictionary Value)
    (name : Text) :
    get? name (putAll [] assigned) = List.lookup name assigned.reverse := by
  induction assigned using List.reverseRecOn with
  | nil => rfl
  | append_singleton earlier last induction_hypothesis =>
      rw [putAll_append_singleton, get?_put, induction_hypothesis,
        List.reverse_append, List.reverse_singleton, List.singleton_append]
      exact (get?_cons name last earlier.reverse).symm

/-- An assignment stays if the name is not assigned again. -/
theorem get?_putAll_nil_append_cons
    (earlier : Dictionary Value)
    (last : Text × Value)
    {later : Dictionary Value}
    (notLater : last.1 ∉ later.names) :
    get? last.1 (putAll [] (earlier ++ last :: later)) = some last.2 := by
  have notFound : List.lookup last.1 later.reverse = none := by
    refine get?_eq_none_iff.2 ?_
    rw [names, List.map_reverse, List.mem_reverse]
    exact notLater
  rw [get?_putAll_nil, List.reverse_append, List.reverse_cons,
    List.append_assoc, List.lookup_append, notFound, Option.none_or]
  exact (get?_cons last.1 last earlier.reverse).trans (if_pos rfl)

/-- Nothing is lost if every name is assigned once. -/
theorem putAll_of_nodup
    {entries additions : Dictionary Value}
    (distinct : (entries.names ++ additions.names).Nodup) :
    putAll entries additions = entries ++ additions := by
  induction additions using List.reverseRecOn with
  | nil => exact (List.append_nil entries).symm
  | append_singleton earlier last induction_hypothesis =>
      rw [names_append, ← List.append_assoc, List.nodup_append',
        ← names_append] at distinct
      rcases distinct with ⟨distinct, _, apart⟩
      rw [names_append] at distinct
      have fresh : last.1 ∉ names (entries ++ earlier) := fun known =>
        apart known (List.mem_singleton_self last.1)
      rw [putAll_append_singleton, induction_hypothesis distinct,
        put_of_notMem_names fresh, List.append_assoc]

end Dictionary

end AnnotatedSql
