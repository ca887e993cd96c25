import AnnotatedSql.Proofs.Dictionary
import AnnotatedSql.Schema.Catalog

/-!
# Names lead to places, and places to items

Tables and catalogs find what they hold by name: a dictionary says at which
place of a list the item of a name stands.  List and dictionary are assigned
one after the other, so that nothing but the order of these assignments keeps
them in step.

They are in step if the dictionary has a name exactly where the list has it.
Then a name leads to the one item that carries it, and they stay in step when
an item with a new name is put behind the others.  A look-up that finds the
right items would not be enough: a place behind the end of the list is not
noticed until the list has grown up to it.
-/

namespace AnnotatedSql

/--
A look-up by name in a list of items with distinct names: it finds under a
name the item that carries it, and under all other names nothing.
-/
structure FindsByName
    {Item : Type}
    (name : Item → Text)
    (items : List Item)
    (found? : Text → Option Item) : Prop where
  distinct : (items.map name).Nodup
  found_iff :
    ∀ wanted item, found? wanted = some item ↔
      item ∈ items ∧ name item = wanted
  missing_iff : ∀ wanted, found? wanted = none ↔ wanted ∉ items.map name

namespace Dictionary

variable
    {Item : Type}
    {nameOf : Item → Text}
    {items : List Item}
    {names : List Text}
    {places : Dictionary Nat}

/-- A dictionary has the place of every name in a list, and nothing else. -/
def Locates (places : Dictionary Nat) (names : List Text) : Prop :=
  ∀ name place, places.get? name = some place ↔ names[place]? = some name

theorem locates_nil : Locates [] [] := by
  intro name place
  simp [get?]

namespace Locates

/-- A name that stood at two places would have both of them. -/
theorem nodup (locates : places.Locates names) : names.Nodup := by
  rw [List.nodup_iff_getElem?_ne_getElem?]
  intro place later before inside same
  have found : names[place]? = some names[later] := by
    rw [same, List.getElem?_eq_getElem inside]
  have foundLater : names[later]? = some names[later] :=
    List.getElem?_eq_getElem inside
  rw [← locates] at found foundLater
  exact before.ne (Option.some.inj (found.symm.trans foundLater))

theorem contains_iff
    (locates : places.Locates names)
    (name : Text) :
    places.contains name = true ↔ name ∈ names := by
  rw [contains, Option.isSome_iff_exists, List.mem_iff_getElem?]
  exact exists_congr fun place => locates name place

/-- A new name gets the place behind the others. -/
theorem append
    (locates : places.Locates names)
    {name : Text}
    (fresh : name ∉ names) :
    (places.put name names.length).Locates (names ++ [name]) := by
  intro wanted place
  rw [get?_put]
  rcases Nat.lt_trichotomy place names.length with before | rfl | behind
  · rw [List.getElem?_append_left before, ← locates]
    split_ifs with same
    · subst same
      have missing : places.get? wanted ≠ some place := by
        rw [Ne, locates]
        exact fun found => fresh (List.mem_of_getElem? found)
      simp [missing, before.ne']
    · rfl
  · have notBefore : places.get? wanted ≠ some names.length := by
      rw [Ne, locates]
      simp
    rw [List.getElem?_concat_length]
    split_ifs with same
    · simp [same]
    · simp [notBefore, Ne.symm same]
  · have nowhere : (names ++ [name])[place]? = none := by
      simpa using behind
    have notBehind : places.get? wanted ≠ some place := by
      rw [Ne, locates]
      simp [behind.le]
    split_ifs <;> simp [nowhere, notBehind, behind.ne]

end Locates

/-! ## Looking items up -/

/-- Wherever a place leads, it leads to an item of the list. -/
theorem mem_of_itemNamed?
    {name : Text}
    {item : Item}
    (found : places.itemNamed? items name = some item) :
    item ∈ items := by
  rcases Option.bind_eq_some_iff.1 found with ⟨place, _, atPlace⟩
  exact List.mem_of_getElem? atPlace

namespace Locates

variable (locates : places.Locates (items.map nameOf))

include locates

theorem itemNamed?_eq_some_iff
    (wanted : Text)
    (item : Item) :
    places.itemNamed? items wanted = some item ↔
      item ∈ items ∧ nameOf item = wanted := by
  have placed_iff (place : Nat) :
      places.get? wanted = some place ↔
        ∃ item, items[place]? = some item ∧ nameOf item = wanted := by
    rw [locates, List.getElem?_map, Option.map_eq_some_iff]
  constructor
  · intro found
    rcases Option.bind_eq_some_iff.1 found with ⟨place, placed, atPlace⟩
    rcases (placed_iff place).1 placed with ⟨other, atPlace', name_eq⟩
    rw [atPlace, Option.some.injEq] at atPlace'
    exact ⟨List.mem_of_getElem? atPlace, atPlace' ▸ name_eq⟩
  · rintro ⟨member, name_eq⟩
    rcases List.mem_iff_getElem?.1 member with ⟨place, atPlace⟩
    exact Option.bind_eq_some_iff.2
      ⟨place, (placed_iff place).2 ⟨item, atPlace, name_eq⟩, atPlace⟩

/-- A name has an item exactly if it has a place. -/
theorem isSome_itemNamed?_iff (wanted : Text) :
    (places.itemNamed? items wanted).isSome = true ↔
      wanted ∈ items.map nameOf := by
  simp only [Option.isSome_iff_exists, locates.itemNamed?_eq_some_iff,
    List.mem_map]

theorem findsByName : FindsByName nameOf items (places.itemNamed? items) where
  distinct := locates.nodup
  found_iff := locates.itemNamed?_eq_some_iff
  missing_iff := by
    intro wanted
    rw [← locates.isSome_itemNamed?_iff, Option.not_isSome_iff_eq_none]

/-- An item with a new name is found like the others. -/
theorem append_item
    {item : Item}
    (fresh : places.contains (nameOf item) = false) :
    (places.put (nameOf item) items.length).Locates
      ((items ++ [item]).map nameOf) := by
  rw [List.map_append, List.map_singleton, ← List.length_map nameOf]
  refine locates.append ?_
  rw [← locates.contains_iff, fresh]
  exact Bool.false_ne_true

end Locates

end Dictionary

/-! ## Tables and catalogs in step -/

namespace Schema

/-- The places of a table are those of the names in its lists. -/
structure Table.InStep (table : Table) : Prop where
  columns : table.columnPlaces.Locates (table.columns.map Column.name)
  indexes : table.indexPlaces.Locates (table.indexes.map Index.name)
  foreignKeys :
    table.foreignKeyPlaces.Locates (table.foreignKeys.map ForeignKey.name)

theorem Table.inStep_named (name : Text) : ({ name } : Table).InStep where
  columns := Dictionary.locates_nil
  indexes := Dictionary.locates_nil
  foreignKeys := Dictionary.locates_nil

/-- The places of a catalog are those of the names of its tables. -/
def Catalog.InStep (catalog : Catalog) : Prop :=
  catalog.tablePlaces.Locates catalog.tableNames

theorem Catalog.InStep.withTable
    {catalog : Catalog}
    (inStep : catalog.InStep)
    {table : Table}
    (fresh : catalog.contains table.name = false) :
    (catalog.withTable table.name table).InStep := by
  have located := Dictionary.Locates.append_item inStep fresh
  rw [InStep, Catalog.withTable, List.length_append]
  exact located

end Schema

end AnnotatedSql
