import AnnotatedSql.Proofs.Lists
import AnnotatedSql.Proofs.Outcome
import AnnotatedSql.Proofs.Schema.Places

/-!
# Additions check first, and then assign

A call that adds something to a table makes several assignments, and it may
fail.  Each of them makes all its checks before the first assignment, so that
it is told by two functions: what it finds to add, or the inconsistency that
the addition would bring, and the table with the addition.

From this follows what a call makes of a table, that a refused call leaves the
table as it was, and that lists and places stay in step.
-/

namespace AnnotatedSql.Schema

namespace Table

variable
    {Item Value : Type}
    {table : Table}

/-! ## Calls -/

/-- A call that fails leaves the table as it was. -/
def Call.Atomic (call : Call Item) : Prop :=
  ∀ (table : Table) (inconsistency : Inconsistency) (left : Table),
    call.run table = .error inconsistency left → left = table

theorem Call.Atomic.map
    {call : Call Item}
    (atomic : call.Atomic)
    (answer : Item → Value) :
    Call.Atomic (answer <$> call) := by
  intro table inconsistency left refused
  refine atomic table inconsistency left ?_
  rw [EStateM.run_map] at refused
  cases ran : call.run table with
  | ok item changed =>
      rw [ran] at refused
      cases refused
  | error inconsistency left =>
      rw [ran] at refused
      cases refused
      rfl

theorem Call.outcome_map
    (answer : Item → Value)
    (call : Call Item)
    (table : Table) :
    Call.outcome (answer <$> call) table = call.outcome table := by
  rw [Call.outcome, Call.outcome, EStateM.run_map]
  cases call.run table <;> rfl

/--
A call that leaves everything alone until it has found the item to add, and
then commits to it.
-/
def Call.ChecksFirst
    (call : Call Item)
    (check : Table → Except Inconsistency Item)
    (commit : Table → Item → Table) : Prop :=
  ∀ table : Table,
    call.run table =
      match check table with
      | .ok item => .ok item (commit table item)
      | .error inconsistency => .error inconsistency table

namespace Call.ChecksFirst

variable
    {call : Call Item}
    {check : Table → Except Inconsistency Item}
    {commit : Table → Item → Table}
    (checksFirst : call.ChecksFirst check commit)

include checksFirst

/-- The call makes of a table what its check says. -/
theorem outcome_eq (table : Table) :
    call.outcome table = (check table).map (commit table) := by
  rw [Call.outcome, checksFirst table]
  cases check table <;> rfl

theorem atomic : call.Atomic := by
  intro table inconsistency left refused
  rw [checksFirst table] at refused
  cases checked : check table with
  | ok item =>
      rw [checked] at refused
      cases refused
  | error inconsistency =>
      rw [checked] at refused
      cases refused
      rfl

end Call.ChecksFirst

@[simp]
theorem run_refuseIf
    (refused : Bool)
    (inconsistency : Inconsistency)
    (table : Table) :
    (refuseIf refused inconsistency).run table =
      if refused then .error inconsistency table else .ok () table := by
  cases refused <;> rfl

@[simp]
theorem run_ofExcept
    (outcome : Except Inconsistency Item)
    (table : Table) :
    (ofExcept outcome : Call Item).run table =
      match outcome with
      | .ok item => .ok item table
      | .error inconsistency => .error inconsistency table := by
  cases outcome <;> rfl

@[simp]
theorem run_referredColumns
    (referrer : Referrer)
    (names : List Text)
    (table : Table) :
    (referredColumns referrer names).run table =
      match names.mapM (table.referredColumn referrer) with
      | .ok columns => .ok columns table
      | .error inconsistency => .error inconsistency table := by
  simp only [referredColumns, EStateM.run_bind, EStateM.run_get, run_ofExcept]
  cases names.mapM (table.referredColumn referrer) <;> rfl

/-- The columns that are referred to by name are columns of the table. -/
theorem mem_columns_of_referredColumn
    {referrer : Referrer}
    {name : Text}
    {column : Column}
    (referred : table.referredColumn referrer name = .ok column) :
    column ∈ table.columns := by
  unfold referredColumn at referred
  split at referred
  · next found =>
    cases referred
    exact Dictionary.mem_of_itemNamed? found
  · cases referred

theorem mem_columns_of_mapM_referredColumn
    {referrer : Referrer}
    {names : List Text}
    {columns : List Column}
    (referred : names.mapM (table.referredColumn referrer) = .ok columns) :
    ∀ column ∈ columns, column ∈ table.columns := by
  intro column member
  have paired := Outcome.mapM_eq_ok_iff.1 referred
  rcases Lists.exists_mem_of_forall₂ paired.flip column member with
    ⟨name, _, found⟩
  exact mem_columns_of_referredColumn found

/-! ## Adding a column -/

/-- The column that is added for a descriptor, if its name is new. -/
def newColumn
    (table : Table)
    (descriptor : ColumnDescriptor) : Except Inconsistency Column :=
  if table.columnPlaces.contains descriptor.name then
    .error (.duplicateColumn descriptor.name table.name)
  else
    .ok ⟨descriptor.name, table.columns.length, descriptor.type⟩

/-- The table with a column behind the others. -/
def withColumn (table : Table) (column : Column) : Table :=
  { table with
    columns := table.columns ++ [column]
    columnPlaces := table.columnPlaces.put column.name table.columns.length }

theorem addColumn_checksFirst (descriptor : ColumnDescriptor) :
    (addColumn descriptor).ChecksFirst (newColumn · descriptor)
      withColumn := by
  intro table
  simp only [addColumn, newColumn, EStateM.run_bind, EStateM.run_get,
    run_refuseIf]
  cases table.columnPlaces.contains descriptor.name <;> rfl

theorem outcome_addColumn
    (descriptor : ColumnDescriptor)
    (table : Table) :
    (addColumn descriptor).outcome table =
      (table.newColumn descriptor).map table.withColumn :=
  Call.ChecksFirst.outcome_eq (addColumn_checksFirst descriptor) table

theorem newColumn_eq_ok_iff
    {descriptor : ColumnDescriptor}
    {column : Column} :
    table.newColumn descriptor = .ok column ↔
      table.columnPlaces.contains descriptor.name = false ∧
        column =
          ⟨descriptor.name, table.columns.length, descriptor.type⟩ := by
  unfold newColumn
  cases table.columnPlaces.contains descriptor.name <;> simp [eq_comm]

theorem InStep.withColumn
    (inStep : table.InStep)
    {column : Column}
    (fresh : table.columnPlaces.contains column.name = false) :
    (table.withColumn column).InStep :=
  { inStep with columns := inStep.columns.append_item fresh }

/-! ## Setting the auto-increment column -/

theorem run_setAutoIncrement
    (reported : Option Text)
    (table : Table) :
    (setAutoIncrement reported).run table =
      match reported with
      | none | some [] => .ok () table
      | some name =>
          match table.referredColumn .autoIncrement name with
          | .ok column => .ok () { table with autoIncrement := some column }
          | .error inconsistency => .error inconsistency table := by
  unfold setAutoIncrement
  split
  · rfl
  · rfl
  · simp only [EStateM.run_bind, EStateM.run_get, run_ofExcept]
    cases table.referredColumn .autoIncrement _ <;> rfl

theorem outcome_setAutoIncrement
    (reported : Option Text)
    (table : Table) :
    (setAutoIncrement reported).outcome table =
      match reported with
      | none | some [] => .ok table
      | some name =>
          (table.referredColumn .autoIncrement name).map fun column =>
            { table with autoIncrement := some column } := by
  rw [Call.outcome, run_setAutoIncrement]
  rcases reported with _ | _ | ⟨point, name⟩
  · rfl
  · rfl
  · dsimp only
    cases table.referredColumn .autoIncrement (point :: name) <;> rfl

theorem setAutoIncrement_atomic (reported : Option Text) :
    (setAutoIncrement reported).Atomic := by
  intro table inconsistency left refused
  rw [run_setAutoIncrement] at refused
  split at refused
  · cases refused
  · cases refused
  · split at refused
    · cases refused
    · cases refused
      rfl

/-! ## Adding an index -/

/-- The index that is added under a name, unless something speaks against
it. -/
def newIndex
    (table : Table)
    (name : Text)
    (columnNames : List Text)
    (isPrimary isUnique : Bool) : Except Inconsistency Index :=
  if table.indexPlaces.contains name then
    .error (.duplicateIndex name table.name)
  else if columnNames.isEmpty then
    .error (.indexWithoutColumns name table.name)
  else do
    let columns ← columnNames.mapM (table.referredColumn (.index name))
    match isPrimary, table.primary with
    | true, some first =>
        .error (.twoPrimaryIndexes table.name first.name name)
    | _, _ => .ok ⟨name, columns, isPrimary, isUnique⟩

/-- The table with an index behind the others. -/
def withIndex (table : Table) (index : Index) : Table :=
  { table with
    indexes := table.indexes ++ [index]
    indexPlaces := table.indexPlaces.put index.name table.indexes.length
    primary := if index.isPrimary then some index else table.primary }

theorem addIndex_checksFirst
    (name : Text)
    (columnNames : List Text)
    (isPrimary isUnique : Bool) :
    (addIndex name columnNames isPrimary isUnique).ChecksFirst
      (newIndex · name columnNames isPrimary isUnique) withIndex := by
  intro table
  unfold newIndex
  cases taken : table.indexPlaces.contains name with
  | true => simp [addIndex, taken]
  | false =>
  cases empty : columnNames.isEmpty with
  | true => simp [addIndex, taken, empty]
  | false =>
  cases referred : columnNames.mapM (table.referredColumn (.index name)) with
  | error inconsistency =>
      simp [addIndex, taken, empty, referred]
  | ok columns =>
  cases isPrimary with
  | false =>
      simp [addIndex, setPrimary, withIndex, taken, empty, referred]
  | true =>
  cases primary : table.primary with
  | none =>
      simp [addIndex, setPrimary, withIndex, taken, empty, referred, primary]
  | some first =>
      simp [addIndex, setPrimary, taken, empty, referred, primary]

theorem outcome_addIndex
    (name : Text)
    (columnNames : List Text)
    (isPrimary isUnique : Bool)
    (table : Table) :
    (addIndex name columnNames isPrimary isUnique).outcome table =
      (table.newIndex name columnNames isPrimary isUnique).map
        table.withIndex :=
  Call.ChecksFirst.outcome_eq
    (addIndex_checksFirst name columnNames isPrimary isUnique) table

/-- What holds of every index that is found to be added. -/
theorem of_newIndex
    {name : Text}
    {columnNames : List Text}
    {isPrimary isUnique : Bool}
    {index : Index}
    (found :
      table.newIndex name columnNames isPrimary isUnique = .ok index) :
    table.indexPlaces.contains index.name = false ∧
      (∀ column ∈ index.columns, column ∈ table.columns) ∧
      (index.isPrimary = true → table.primary = none) := by
  unfold newIndex at found
  split at found
  · cases found
  next fresh =>
  split at found
  · cases found
  rcases Outcome.bind_eq_ok_iff.1 found with ⟨columns, referred, found⟩
  split at found
  · cases found
  next alone =>
  cases found
  refine ⟨Bool.eq_false_iff.2 fresh,
    mem_columns_of_mapM_referredColumn referred, ?_⟩
  intro marked
  exact Option.eq_none_iff_forall_ne_some.2 fun first => alone first marked

theorem InStep.withIndex
    (inStep : table.InStep)
    {index : Index}
    (fresh : table.indexPlaces.contains index.name = false) :
    (table.withIndex index).InStep :=
  { inStep with indexes := inStep.indexes.append_item fresh }

/-! ## Adding a foreign key -/

/-- The foreign key that is added under a name, unless something speaks
against it. -/
def newForeignKey
    (table : Table)
    (name : Text)
    (columnNames : List Text)
    (referencedTable : Text)
    (referencedColumns : List Text) : Except Inconsistency ForeignKey :=
  if table.foreignKeyPlaces.contains name then
    .error (.duplicateForeignKey name table.name)
  else if columnNames.length ≠ referencedColumns.length then
    .error
      (.unequalColumnCounts name table.name columnNames.length
        referencedColumns.length)
  else do
    let columns ← columnNames.mapM (table.referredColumn (.foreignKey name))
    return ⟨name, columns, referencedTable, referencedColumns⟩

/-- The table with a foreign key behind the others. -/
def withForeignKey (table : Table) (foreignKey : ForeignKey) : Table :=
  { table with
    foreignKeys := table.foreignKeys ++ [foreignKey]
    foreignKeyPlaces :=
      table.foreignKeyPlaces.put foreignKey.name table.foreignKeys.length }

theorem addForeignKey_checksFirst
    (name : Text)
    (columnNames : List Text)
    (referencedTable : Text)
    (referencedColumns : List Text) :
    (addForeignKey name columnNames referencedTable
      referencedColumns).ChecksFirst
      (newForeignKey · name columnNames referencedTable referencedColumns)
      withForeignKey := by
  intro table
  unfold newForeignKey
  cases taken : table.foreignKeyPlaces.contains name with
  | true => simp [addForeignKey, taken]
  | false =>
  by_cases unequal : columnNames.length ≠ referencedColumns.length
  · simp [addForeignKey, taken, unequal]
  cases referred :
      columnNames.mapM (table.referredColumn (.foreignKey name)) with
  | error inconsistency =>
      simp [addForeignKey, taken, unequal, referred]
  | ok columns =>
      simp [addForeignKey, withForeignKey, taken, unequal, referred]

theorem outcome_addForeignKey
    (name : Text)
    (columnNames : List Text)
    (referencedTable : Text)
    (referencedColumns : List Text)
    (table : Table) :
    (addForeignKey name columnNames referencedTable
      referencedColumns).outcome table =
      (table.newForeignKey name columnNames referencedTable
        referencedColumns).map table.withForeignKey :=
  Call.ChecksFirst.outcome_eq
    (addForeignKey_checksFirst name columnNames referencedTable
      referencedColumns) table

/-- What holds of every foreign key that is found to be added. -/
theorem of_newForeignKey
    {name referencedTable : Text}
    {columnNames referencedColumns : List Text}
    {foreignKey : ForeignKey}
    (found :
      table.newForeignKey name columnNames referencedTable
        referencedColumns = .ok foreignKey) :
    table.foreignKeyPlaces.contains foreignKey.name = false ∧
      ∀ column ∈ foreignKey.columns, column ∈ table.columns := by
  unfold newForeignKey at found
  split at found
  · cases found
  next fresh =>
  split at found
  · cases found
  rcases Outcome.bind_eq_ok_iff.1 found with ⟨columns, referred, found⟩
  cases found
  exact ⟨Bool.eq_false_iff.2 fresh,
    mem_columns_of_mapM_referredColumn referred⟩

theorem InStep.withForeignKey
    (inStep : table.InStep)
    {foreignKey : ForeignKey}
    (fresh : table.foreignKeyPlaces.contains foreignKey.name = false) :
    (table.withForeignKey foreignKey).InStep :=
  { inStep with foreignKeys := inStep.foreignKeys.append_item fresh }

end Table

/-! ## Adding tables -/

namespace Catalog

variable
    {engine : Engine}
    {accepts : Text → Bool}

/-- The catalog with one more table, as an engine reports it. -/
def addTable
    (engine : Engine)
    (catalog : Catalog)
    (name : Text) : Except LoadError Catalog :=
  if catalog.contains name then
    .error (.inconsistent (.duplicateTable name))
  else
    (loadTable engine name).1.map (catalog.withTable name)

/-- Loading adds the accepted tables in turn; the others are passed over. -/
theorem loadTables_eq_foldlM
    (catalog : Catalog)
    (names : List Text) :
    (loadTables engine accepts catalog names).1 =
      (names.filter accepts).foldlM (addTable engine) catalog := by
  induction names generalizing catalog with
  | nil => rfl
  | cons name names induction_hypothesis =>
      rw [loadTables]
      cases accepted : accepts name with
      | false =>
          rw [List.filter_cons_of_neg (by simp [accepted])]
          exact induction_hypothesis catalog
      | true =>
          rw [List.filter_cons_of_pos accepted, List.foldlM_cons, addTable]
          by_cases taken : catalog.contains name = true
          · rw [if_pos taken, if_pos taken]
            rfl
          · rw [if_neg taken, if_neg taken]
            rcases loadTable engine name with ⟨_ | table, events⟩
            · rfl
            · exact induction_hypothesis _

/-- A table that is added has a new name and is loaded under it. -/
theorem addTable_eq_ok_iff
    {catalog extended : Catalog}
    {name : Text} :
    addTable engine catalog name = .ok extended ↔
      catalog.contains name = false ∧
        ∃ table, (loadTable engine name).1 = .ok table ∧
          catalog.withTable name table = extended := by
  rw [addTable]
  split
  · next taken => simp [taken]
  · next fresh =>
    rw [Outcome.map_eq_ok_iff, Bool.not_eq_true] at *
    simp [fresh]

end Catalog

end AnnotatedSql.Schema
