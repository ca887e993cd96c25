import AnnotatedSql.Proofs.Schema.Additions

/-!
# Columns in schema order

A table of a loaded catalog has the columns that the engine reports for it,
in the order of the report and numbered from zero.  Adding a column appends
it under the next number; whatever is added later leaves the name and the
columns of the table alone.
-/

namespace AnnotatedSql.Schema

/-- Reported columns as the columns of a table, numbered from a position. -/
def numberedFrom
    (first : Nat)
    (descriptors : List ColumnDescriptor) :
    List Column :=
  descriptors.mapIdx fun place descriptor =>
    ⟨descriptor.name, first + place, descriptor.type⟩

theorem numberedFrom_cons
    (first : Nat)
    (descriptor : ColumnDescriptor)
    (descriptors : List ColumnDescriptor) :
    numberedFrom first (descriptor :: descriptors) =
      ⟨descriptor.name, first, descriptor.type⟩ ::
        numberedFrom (first + 1) descriptors := by
  simp [numberedFrom, List.mapIdx_cons, Nat.add_assoc, Nat.add_comm 1]

namespace Table

theorem eq_of_addColumn
    {table extended : Table}
    {descriptor : ColumnDescriptor}
    (added : (addColumn descriptor).outcome table = .ok extended) :
    extended.name = table.name ∧
      extended.columns =
        table.columns ++
          [⟨descriptor.name, table.columns.length, descriptor.type⟩] := by
  rw [outcome_addColumn, Outcome.map_eq_ok_iff] at added
  rcases added with ⟨column, found, rfl⟩
  rw [(newColumn_eq_ok_iff.1 found).2]
  exact ⟨rfl, rfl⟩

theorem columns_of_foldlM_addColumn
    {table extended : Table}
    {descriptors : List ColumnDescriptor}
    (added :
      descriptors.foldlM
        (fun table descriptor => (addColumn descriptor).outcome table)
        table = .ok extended) :
    extended.name = table.name ∧
      extended.columns =
        table.columns ++ numberedFrom table.columns.length descriptors := by
  induction descriptors generalizing table with
  | nil =>
      cases added
      exact ⟨rfl, (List.append_nil _).symm⟩
  | cons descriptor descriptors induction_hypothesis =>
      rw [List.foldlM_cons, Outcome.bind_eq_ok_iff] at added
      rcases added with ⟨next, addedFirst, addedOthers⟩
      rcases eq_of_addColumn addedFirst with ⟨name_eq, columns_eq⟩
      rcases induction_hypothesis addedOthers with ⟨name_eq', columns_eq'⟩
      refine ⟨name_eq'.trans name_eq, ?_⟩
      rw [columns_eq', columns_eq, numberedFrom_cons]
      simp

/-- Two stages of a table with the same name and columns. -/
def SameColumns (table extended : Table) : Prop :=
  extended.name = table.name ∧ extended.columns = table.columns

theorem SameColumns.trans
    {first second third : Table}
    (left : SameColumns first second)
    (right : SameColumns second third) :
    SameColumns first third :=
  ⟨right.1.trans left.1, right.2.trans left.2⟩

theorem sameColumns_of_setAutoIncrement
    {table extended : Table}
    {reported : Option Text}
    (set : (setAutoIncrement reported).outcome table = .ok extended) :
    SameColumns table extended := by
  rw [outcome_setAutoIncrement] at set
  split at set
  · cases set
    exact ⟨rfl, rfl⟩
  · cases set
    exact ⟨rfl, rfl⟩
  · rcases Outcome.map_eq_ok_iff.1 set with ⟨column, _, rfl⟩
    exact ⟨rfl, rfl⟩

theorem sameColumns_of_addIndex
    {table extended : Table}
    {name : Text}
    {columnNames : List Text}
    {isPrimary isUnique : Bool}
    (added :
      (addIndex name columnNames isPrimary isUnique).outcome table =
        .ok extended) :
    SameColumns table extended := by
  rw [outcome_addIndex, Outcome.map_eq_ok_iff] at added
  rcases added with ⟨index, _, rfl⟩
  exact ⟨rfl, rfl⟩

theorem sameColumns_of_addForeignKey
    {table extended : Table}
    {name referencedTable : Text}
    {columnNames referencedColumns : List Text}
    (added :
      (addForeignKey name columnNames referencedTable
        referencedColumns).outcome table = .ok extended) :
    SameColumns table extended := by
  rw [outcome_addForeignKey, Outcome.map_eq_ok_iff] at added
  rcases added with ⟨foreignKey, _, rfl⟩
  exact ⟨rfl, rfl⟩

end Table

namespace Catalog

/-- The table mirrors the columns that an engine reports under its name. -/
def MirrorsColumns (engine : Engine) (table : Table) : Prop :=
  ∃ descriptors : List ColumnDescriptor,
    engine.columns table.name = .ok descriptors ∧
      table.columns = numberedFrom 0 descriptors

theorem MirrorsColumns.of_sameColumns
    {engine : Engine}
    {table extended : Table}
    (mirrors : MirrorsColumns engine table)
    (same : table.SameColumns extended) :
    MirrorsColumns engine extended := by
  rcases mirrors with ⟨descriptors, reported, columns_eq⟩
  exact ⟨descriptors, by rw [same.1]; exact reported,
    same.2.trans columns_eq⟩

theorem mirrorsColumns_of_loadColumns
    {engine : Engine}
    {name : Text}
    {table : Table}
    (loaded : loadColumns engine name = .ok table) :
    MirrorsColumns engine table := by
  simp only [loadColumns, Outcome.bind_eq_ok_iff,
    Outcome.mapError_eq_ok_iff] at loaded
  rcases loaded with ⟨descriptors, reported, bare, added, loaded⟩
  rcases Table.columns_of_foldlM_addColumn added with ⟨name_eq, columns_eq⟩
  have bareMirrors : MirrorsColumns engine bare :=
    ⟨descriptors, by rw [name_eq]; exact reported, columns_eq⟩
  split at loaded
  · rw [Outcome.mapError_eq_ok_iff] at loaded
    exact bareMirrors.of_sameColumns
      (Table.sameColumns_of_setAutoIncrement loaded)
  · cases loaded
    exact bareMirrors

theorem sameColumns_of_loadKeys
    {engine : Engine}
    {indexes : List Text}
    {table extended : Table}
    (loaded : loadKeys engine indexes table = .ok extended) :
    table.SameColumns extended := by
  rw [loadKeys, Outcome.bind_eq_ok_iff] at loaded
  rcases loaded with ⟨indexed, loadedIndexes, loadedForeignKeys⟩
  have sameIndexed : table.SameColumns indexed := by
    refine Outcome.foldlM_induction table.SameColumns
      ?_ ⟨rfl, rfl⟩ loadedIndexes
    intro state index _ next stepped same
    simp only [loadIndex, Outcome.bind_eq_ok_iff,
      Outcome.mapError_eq_ok_iff] at stepped
    rcases stepped with ⟨described, _, added⟩
    exact same.trans (Table.sameColumns_of_addIndex added)
  refine Outcome.foldlM_induction table.SameColumns
    ?_ sameIndexed loadedForeignKeys
  intro state foreignKey _ next stepped same
  simp only [loadForeignKey, Outcome.bind_eq_ok_iff,
    Outcome.mapError_eq_ok_iff] at stepped
  rcases stepped with ⟨described, _, added⟩
  exact same.trans (Table.sameColumns_of_addForeignKey added)

theorem mirrorsColumns_of_loadTable
    {engine : Engine}
    {name : Text}
    {table : Table}
    {events : List Event}
    (loaded : loadTable engine name = (.ok table, events)) :
    MirrorsColumns engine table := by
  unfold loadTable at loaded
  split at loaded
  · exact nomatch loaded
  · next bare loadedColumns =>
    simp only at loaded
    split at loaded
    · exact nomatch loaded
    · next full loadedKeys =>
      cases loaded
      exact (mirrorsColumns_of_loadColumns loadedColumns).of_sameColumns
        (sameColumns_of_loadKeys loadedKeys)

/-- Every table of a loaded catalog mirrors its reported columns. -/
theorem mirrorsColumns_of_load
    {engine : Engine}
    {accepts : Text → Bool}
    {catalog : Catalog}
    (loaded : (load engine accepts).1 = .ok catalog) :
    ∀ table ∈ catalog.tables, MirrorsColumns engine table := by
  rw [load, loadTables_eq_foldlM] at loaded
  refine Outcome.foldlM_induction
    (fun catalog => ∀ table ∈ catalog.tables, MirrorsColumns engine table)
    ?_ (List.forall_mem_nil _) loaded
  intro catalog name _ extended added earlier
  rcases addTable_eq_ok_iff.1 added with ⟨_, table, loadedTable, rfl⟩
  exact List.forall_mem_append.2 ⟨earlier,
    List.forall_mem_singleton.2
      (mirrorsColumns_of_loadTable (Prod.ext loadedTable rfl))⟩

end Catalog

end AnnotatedSql.Schema
