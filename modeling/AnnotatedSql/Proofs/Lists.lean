import Mathlib

/-!
# Lists

What the development needs to know about lists of any items: lists without
repetitions, lists that are found item by item, and lists whose items are
related one by one.
-/

namespace AnnotatedSql.Lists

variable {Item Item' Key : Type}

/-! ## Distinct items -/

/-- One more key is distinct from the others if it is new among them. -/
theorem nodup_map_append_singleton_iff
    (key : Item → Key)
    (before : List Item)
    (item : Item) :
    ((before ++ [item]).map key).Nodup ↔
      key item ∉ before.map key ∧ (before.map key).Nodup := by
  rw [List.map_append, List.map_singleton, ← List.concat_eq_append,
    List.nodup_concat]

theorem nodup_eraseDups [DecidableEq Item] :
    (items : List Item) → items.eraseDups.Nodup
  | [] => List.nodup_nil
  | item :: items => by
      rw [List.eraseDups_cons, List.nodup_cons]
      refine ⟨?_, nodup_eraseDups _⟩
      simp
  termination_by items => items.length
  decreasing_by
    exact Nat.lt_succ_of_le (List.length_filter_le ..)

/-- The first item of a key is the only one when keys are distinct. -/
theorem find?_key_eq_some_iff
    [DecidableEq Key]
    {key : Item → Key}
    {items : List Item}
    (distinct : (items.map key).Nodup)
    (wanted : Key)
    (item : Item) :
    items.find? (fun item => key item = wanted) = some item ↔
      item ∈ items ∧ key item = wanted := by
  constructor
  · intro found
    exact
      ⟨List.mem_of_find?_eq_some found, by simpa using List.find?_some found⟩
  · rintro ⟨member, rfl⟩
    cases found : items.find? fun other => key other = key item with
    | none => simpa using List.find?_eq_none.1 found item member
    | some other =>
        have other_key : key other = key item := by
          simpa using List.find?_some found
        rw [List.inj_on_of_nodup_map distinct
          (List.mem_of_find?_eq_some found) member other_key]

/-! ## Items found one by one -/

/-- Items found for every key of a list make up a list in the same order. -/
theorem exists_map_eq
    {key : Item → Key}
    {Holds : Item → Prop}
    {keys : List Key}
    (each : ∀ wanted ∈ keys, ∃ item, key item = wanted ∧ Holds item) :
    ∃ items : List Item, items.map key = keys ∧ ∀ item ∈ items, Holds item := by
  have inRange :
      keys ∈ Set.range (List.map fun item : { item // Holds item } =>
        key item.val) := by
    rw [Set.range_list_map]
    intro wanted member
    rcases each wanted member with ⟨item, key_eq, holds⟩
    exact ⟨⟨item, holds⟩, key_eq⟩
  rcases inRange with ⟨items, keys_eq⟩
  refine ⟨items.map Subtype.val, ?_, ?_⟩
  · rw [List.map_map]
    exact keys_eq
  · intro item member
    rcases List.mem_map.1 member with ⟨found, _, rfl⟩
    exact found.property

theorem filterMap_cons_toList
    (key? : Item → Option Key)
    (item : Item)
    (items : List Item) :
    (item :: items).filterMap key? =
      (key? item).toList ++ items.filterMap key? := by
  rw [List.filterMap_cons]
  cases key? item <;> rfl

/-! ## Items related one by one -/

/-- Each item of the first of two related lists is related to one of the
second. -/
theorem exists_mem_of_forall₂
    {related : Item → Item' → Prop}
    {items : List Item}
    {items' : List Item'}
    (all : List.Forall₂ related items items') :
    ∀ item ∈ items, ∃ item' ∈ items', related item item' := by
  induction all with
  | nil => exact List.forall_mem_nil _
  | cons first _ induction_hypothesis =>
      refine List.forall_mem_cons.2 ⟨⟨_, List.mem_cons_self .., first⟩, ?_⟩
      intro item member
      rcases induction_hypothesis item member with ⟨item', member', holds⟩
      exact ⟨item', List.mem_cons_of_mem _ member', holds⟩

end AnnotatedSql.Lists
