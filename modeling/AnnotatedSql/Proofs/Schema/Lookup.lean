import AnnotatedSql.Proofs.Schema.Loading

/-!
# Look-ups in tables and catalogs

A table is looked up by name, and so are the columns, indexes and foreign keys
of a table.  Every list is kept with the places of its names.  Since additions
refuse names that are taken and put all others behind the last one, list and
places stay in step, and a name leads to the one item that carries it.  Since
indexes and foreign keys are made of columns that were found, they refer to
columns of their own table; and since a second primary index is refused, the
primary index is the only one.

Every change of a table keeps this, whether it is accepted or refused, so that
it holds of every table under construction and of every table of a loaded
catalog.
-/

namespace AnnotatedSql.Schema

/-! ## Coherent tables -/

/--
A table whose look-ups agree with what it holds.  Its lists and places are in
step; a column stands at its position; columns, indexes and foreign keys are
found by their names; what indexes, foreign keys and the auto-increment column
refer to are columns of the table; and the primary index is the index that is
marked as such, if there is one.
-/
structure Table.Coherent (table : Table) : Prop where
  inStep : table.InStep
  columnAt :
    ∀ (place : Nat) (column : Column),
      table.columns[place]? = some column →
        table.column place = .ok column ∧ column.position = place
  columnNamed : FindsByName Column.name table.columns table.columnNamed?
  indexNamed : FindsByName Index.name table.indexes table.indexNamed?
  foreignKeyNamed :
    FindsByName ForeignKey.name table.foreignKeys table.foreignKeyNamed?
  ownAutoIncrement : ∀ column ∈ table.autoIncrement, column ∈ table.columns
  ownIndexColumns :
    ∀ index ∈ table.indexes, ∀ column ∈ index.columns, column ∈ table.columns
  ownForeignKeyColumns :
    ∀ foreignKey ∈ table.foreignKeys, ∀ column ∈ foreignKey.columns,
      column ∈ table.columns
  primary : table.indexes.filter Index.isPrimary = table.primary.toList
  uniqueIndexes :
    table.uniqueIndexes =
      table.indexes.filter fun index =>
        index.isUnique && decide (table.primary ≠ some index)

namespace Table

variable {table : Table}

theorem column_of_getElem?
    {place : Nat}
    {column : Column}
    (found : table.columns[place]? = some column) :
    table.column place = .ok column := by
  have atPlace : table.column (Int.ofNat place) = .ok column := by
    simp only [Table.column, found]
  exact atPlace

/-- The marks and the pointer agree on which indexes are not primary. -/
theorem uniqueIndexes_eq
    (primary : table.indexes.filter Index.isPrimary = table.primary.toList) :
    table.uniqueIndexes =
      table.indexes.filter fun index =>
        index.isUnique && decide (table.primary ≠ some index) := by
  refine List.filter_congr fun index member => ?_
  have marked_iff : index.isPrimary = true ↔ table.primary = some index := by
    rw [← Option.mem_toList, ← primary, List.mem_filter]
    exact ⟨fun marked => ⟨member, marked⟩, fun marked => marked.2⟩
  cases marked : index.isPrimary <;> simp_all

theorem coherent_named (name : Text) : ({ name } : Table).Coherent where
  inStep := inStep_named name
  columnAt := by simp
  columnNamed := (inStep_named name).columns.findsByName
  indexNamed := (inStep_named name).indexes.findsByName
  foreignKeyNamed := (inStep_named name).foreignKeys.findsByName
  ownAutoIncrement := by simp
  ownIndexColumns := by simp
  ownForeignKeyColumns := by simp
  primary := rfl
  uniqueIndexes := rfl

/-! ## Accepted changes keep tables coherent -/

namespace Coherent

variable (coherent : table.Coherent)

include coherent

theorem withColumn
    {column : Column}
    (fresh : table.columnPlaces.contains column.name = false)
    (position_eq : column.position = table.columns.length) :
    (table.withColumn column).Coherent := by
  have inStep := coherent.inStep.withColumn fresh
  have later (column' : Column) (member : column' ∈ table.columns) :
      column' ∈ table.columns ++ [column] :=
    List.mem_append_left _ member
  refine
    { inStep
      columnAt := fun place column found => ⟨column_of_getElem? found, ?_⟩
      columnNamed := inStep.columns.findsByName
      indexNamed := inStep.indexes.findsByName
      foreignKeyNamed := inStep.foreignKeys.findsByName
      ownAutoIncrement := fun column set =>
        later column (coherent.ownAutoIncrement column set)
      ownIndexColumns := fun index member column own =>
        later column (coherent.ownIndexColumns index member column own)
      ownForeignKeyColumns := fun foreignKey member column own =>
        later column
          (coherent.ownForeignKeyColumns foreignKey member column own)
      primary := coherent.primary
      uniqueIndexes := uniqueIndexes_eq coherent.primary }
  -- The new column is the only one behind those that stood there before.
  rcases Nat.lt_or_ge place table.columns.length with before | behind
  · rw [Table.withColumn, List.getElem?_append_left before] at found
    exact (coherent.columnAt place column found).2
  · rw [Table.withColumn, List.getElem?_append_right behind,
      List.getElem?_singleton] at found
    split at found
    · next last =>
      cases found
      exact position_eq.trans
        (behind.antisymm (Nat.sub_eq_zero_iff_le.1 last))
    · cases found

theorem addColumn
    {descriptor : ColumnDescriptor}
    {extended : Table}
    (added : (Table.addColumn descriptor).outcome table = .ok extended) :
    extended.Coherent := by
  rw [outcome_addColumn, Outcome.map_eq_ok_iff] at added
  rcases added with ⟨column, found, rfl⟩
  rcases newColumn_eq_ok_iff.1 found with ⟨fresh, rfl⟩
  exact coherent.withColumn fresh rfl

theorem setAutoIncrement
    {reported : Option Text}
    {extended : Table}
    (set : (Table.setAutoIncrement reported).outcome table = .ok extended) :
    extended.Coherent := by
  rw [outcome_setAutoIncrement] at set
  split at set
  · cases set
    exact coherent
  · cases set
    exact coherent
  · rcases Outcome.map_eq_ok_iff.1 set with ⟨column, found, rfl⟩
    refine
      { coherent with
        inStep := { coherent.inStep with }
        ownAutoIncrement := ?_ }
    rintro _ ⟨rfl⟩
    exact mem_columns_of_referredColumn found

theorem withIndex
    {index : Index}
    (fresh : table.indexPlaces.contains index.name = false)
    (own : ∀ column ∈ index.columns, column ∈ table.columns)
    (first : index.isPrimary = true → table.primary = none) :
    (table.withIndex index).Coherent := by
  have inStep := coherent.inStep.withIndex fresh
  have primary_eq :
      (table.indexes ++ [index]).filter Index.isPrimary =
        (table.withIndex index).primary.toList := by
    rw [List.filter_append, coherent.primary]
    cases marked : index.isPrimary with
    | false => simp [Table.withIndex, marked]
    | true => simp [Table.withIndex, marked, first marked]
  exact
    { inStep
      columnAt := coherent.columnAt
      columnNamed := inStep.columns.findsByName
      indexNamed := inStep.indexes.findsByName
      foreignKeyNamed := inStep.foreignKeys.findsByName
      ownAutoIncrement := coherent.ownAutoIncrement
      ownIndexColumns :=
        List.forall_mem_append.2 ⟨coherent.ownIndexColumns,
          List.forall_mem_singleton.2 own⟩
      ownForeignKeyColumns := coherent.ownForeignKeyColumns
      primary := primary_eq
      uniqueIndexes := uniqueIndexes_eq primary_eq }

theorem addIndex
    {name : Text}
    {columnNames : List Text}
    {isPrimary isUnique : Bool}
    {extended : Table}
    (added :
      (Table.addIndex name columnNames isPrimary isUnique).outcome table =
        .ok extended) :
    extended.Coherent := by
  rw [outcome_addIndex, Outcome.map_eq_ok_iff] at added
  rcases added with ⟨index, found, rfl⟩
  rcases of_newIndex found with ⟨fresh, own, first⟩
  exact coherent.withIndex fresh own first

theorem addForeignKey
    {name referencedTable : Text}
    {columnNames referencedColumns : List Text}
    {extended : Table}
    (added :
      (Table.addForeignKey name columnNames referencedTable
        referencedColumns).outcome table = .ok extended) :
    extended.Coherent := by
  rw [outcome_addForeignKey, Outcome.map_eq_ok_iff] at added
  rcases added with ⟨foreignKey, found, rfl⟩
  rcases of_newForeignKey found with ⟨fresh, own⟩
  have inStep := coherent.inStep.withForeignKey fresh
  exact
    { coherent with
      inStep
      foreignKeyNamed := inStep.foreignKeys.findsByName
      ownForeignKeyColumns :=
        List.forall_mem_append.2 ⟨coherent.ownForeignKeyColumns,
          List.forall_mem_singleton.2 own⟩ }

end Coherent

end Table

/-! ## Changes, accepted or refused -/

/-- A change of a table under construction. -/
inductive Change where
  | column (descriptor : ColumnDescriptor)
  | autoIncrement (reported : Option Text)
  | index (name : Text) (description : IndexDescription)
  | foreignKey (name : Text) (description : ForeignKeyDescription)

/-- The call that makes a change. -/
def Change.call : Change → Table.Call Unit
  | .column descriptor => (fun _ => ()) <$> Table.addColumn descriptor
  | .autoIncrement reported => Table.setAutoIncrement reported
  | .index name description =>
      (fun _ => ()) <$>
        Table.addIndex name description.columns description.isPrimary
          description.isUnique
  | .foreignKey name description =>
      (fun _ => ()) <$>
        Table.addForeignKey name description.columns
          description.referencedTable description.referencedColumns

/-- A refused change leaves the table as it was. -/
theorem Change.atomic (change : Change) : change.call.Atomic := by
  cases change with
  | column descriptor =>
      exact (Table.Call.ChecksFirst.atomic
        (Table.addColumn_checksFirst descriptor)).map _
  | autoIncrement reported => exact Table.setAutoIncrement_atomic reported
  | index name description =>
      exact (Table.Call.ChecksFirst.atomic
        (Table.addIndex_checksFirst name _ _ _)).map _
  | foreignKey name description =>
      exact (Table.Call.ChecksFirst.atomic
        (Table.addForeignKey_checksFirst name _ _ _)).map _

namespace Table

variable {table : Table}

/-- The table that is there behind a change, whether it was accepted or
refused. -/
def behind (table : Table) (change : Change) : Table :=
  match change.call.run table with
  | .ok _ left => left
  | .error _ left => left

theorem Coherent.change
    (coherent : table.Coherent)
    {change : Change}
    {changed : Table}
    (accepted : change.call.outcome table = .ok changed) :
    changed.Coherent := by
  cases change with
  | column descriptor =>
      exact coherent.addColumn ((Call.outcome_map ..).symm.trans accepted)
  | autoIncrement reported => exact coherent.setAutoIncrement accepted
  | index name description =>
      exact coherent.addIndex ((Call.outcome_map ..).symm.trans accepted)
  | foreignKey name description =>
      exact coherent.addForeignKey
        ((Call.outcome_map ..).symm.trans accepted)

/-- A change keeps a table coherent, accepted or not. -/
theorem Coherent.behind
    (coherent : table.Coherent)
    (change : Change) :
    (table.behind change).Coherent := by
  rw [Table.behind]
  cases ran : change.call.run table with
  | ok answer left =>
      have accepted : change.call.outcome table = .ok left := by
        rw [Call.outcome, ran]
      exact coherent.change accepted
  | error inconsistency left =>
      rw [change.atomic table inconsistency left ran]
      exact coherent

/-- Whatever is tried in turn on a new table, the table is coherent. -/
theorem coherent_foldl_behind
    (name : Text)
    (changes : List Change) :
    (changes.foldl behind { name }).Coherent := by
  induction changes using List.reverseRecOn with
  | nil => exact coherent_named name
  | append_singleton earlier last induction_hypothesis =>
      rw [List.foldl_append]
      exact induction_hypothesis.behind last

end Table

/-! ## Loaded catalogs -/

/-- A catalog of coherent tables that are found by their names. -/
structure Catalog.Coherent (catalog : Catalog) : Prop where
  inStep : catalog.InStep
  tableNamed : FindsByName Table.name catalog.tables catalog.tableNamed?
  each : ∀ table ∈ catalog.tables, table.Coherent

namespace Catalog

variable
    {engine : Engine}
    {accepts : Text → Bool}
    {catalog : Catalog}

theorem coherent_of_loadColumns
    {name : Text}
    {table : Table}
    (loaded : loadColumns engine name = .ok table) :
    table.Coherent := by
  simp only [loadColumns, Outcome.bind_eq_ok_iff,
    Outcome.mapError_eq_ok_iff] at loaded
  rcases loaded with ⟨descriptors, _, bare, added, loaded⟩
  have coherent : bare.Coherent :=
    Outcome.foldlM_induction Table.Coherent
      (fun _ _ _ _ accepted coherent => coherent.addColumn accepted)
      (Table.coherent_named name) added
  split at loaded
  · rw [Outcome.mapError_eq_ok_iff] at loaded
    exact coherent.setAutoIncrement loaded
  · cases loaded
    exact coherent

theorem coherent_of_loadKeys
    {indexes : List Text}
    {table extended : Table}
    (coherent : table.Coherent)
    (loaded : loadKeys engine indexes table = .ok extended) :
    extended.Coherent := by
  rw [loadKeys, Outcome.bind_eq_ok_iff] at loaded
  rcases loaded with ⟨indexed, loadedIndexes, loadedForeignKeys⟩
  have coherent_indexed : indexed.Coherent := by
    refine Outcome.foldlM_induction Table.Coherent ?_ coherent loadedIndexes
    intro state index _ next stepped coherent
    simp only [loadIndex, Outcome.bind_eq_ok_iff,
      Outcome.mapError_eq_ok_iff] at stepped
    rcases stepped with ⟨described, _, accepted⟩
    exact coherent.addIndex accepted
  refine Outcome.foldlM_induction Table.Coherent ?_ coherent_indexed
    loadedForeignKeys
  intro state foreignKey _ next stepped coherent
  simp only [loadForeignKey, Outcome.bind_eq_ok_iff,
    Outcome.mapError_eq_ok_iff] at stepped
  rcases stepped with ⟨described, _, accepted⟩
  exact coherent.addForeignKey accepted

theorem coherent_of_loadTable
    {name : Text}
    {table : Table}
    {events : List Event}
    (loaded : loadTable engine name = (.ok table, events)) :
    table.Coherent ∧ table.name = name := by
  unfold loadTable at loaded
  split at loaded
  · cases loaded
  next bare loadedColumns =>
  simp only at loaded
  split at loaded
  · cases loaded
  next full loadedKeys =>
  cases loaded
  exact
    ⟨coherent_of_loadKeys (coherent_of_loadColumns loadedColumns) loadedKeys,
    (sameColumns_of_loadKeys loadedKeys).1.trans
      (name_eq_of_loadColumns loadedColumns)⟩

theorem coherent_empty : ({} : Catalog).Coherent where
  inStep := Dictionary.locates_nil
  tableNamed := Dictionary.Locates.findsByName Dictionary.locates_nil
  each := List.forall_mem_nil _

/-- A catalog stays coherent when a table is loaded into it. -/
theorem Coherent.addTable
    {extended : Catalog}
    {name : Text}
    (coherent : catalog.Coherent)
    (added : Catalog.addTable engine catalog name = .ok extended) :
    extended.Coherent := by
  rcases addTable_eq_ok_iff.1 added with ⟨fresh, table, loaded, rfl⟩
  rcases coherent_of_loadTable (Prod.ext loaded rfl) with
    ⟨coherentTable, rfl⟩
  have inStep := InStep.withTable coherent.inStep fresh
  exact
    { inStep
      tableNamed := Dictionary.Locates.findsByName inStep
      each := List.forall_mem_append.2 ⟨coherent.each,
        List.forall_mem_singleton.2 coherentTable⟩ }

theorem coherent_of_load
    (loaded : (load engine accepts).1 = .ok catalog) :
    catalog.Coherent := by
  rw [load, loadTables_eq_foldlM] at loaded
  exact Outcome.foldlM_induction Catalog.Coherent
    (fun _ _ _ _ added coherent => coherent.addTable added)
    coherent_empty loaded

/-- A name has a place in the catalog exactly if a table carries it. -/
theorem contains_iff_mem_tableNames
    (inStep : catalog.InStep)
    (name : Text) :
    catalog.contains name = true ↔ name ∈ catalog.tableNames :=
  Dictionary.Locates.contains_iff inStep name

/--
In a loaded catalog every table is found by its name, whichever way it is
looked up, and under all other names nothing is found; the tables are coherent.
A table is coherent from the start.  A change that is refused leaves it as it
was, and whatever is changed, accepted or refused, leaves it coherent.
-/
theorem lookups_of_load
    (loaded : (load engine accepts).1 = .ok catalog) :
    catalog.tableNames.Nodup ∧
      (∀ (place : Nat) (table : Table),
        catalog.tables[place]? = some table →
          catalog.tableAt? place = some table ∧
          catalog.tableNamed? table.name = some table ∧
          catalog.tableNamed table.name = .ok table ∧
          catalog.contains table.name = true) ∧
      (∀ name : Text,
        name ∉ catalog.tableNames →
          catalog.tableNamed? name = none ∧
          catalog.tableNamed name = .error ⟨name⟩ ∧
          catalog.contains name = false) ∧
      (∀ table ∈ catalog.tables, table.Coherent) ∧
      (∀ (table : Table) (change : Change),
        table.Coherent → (table.behind change).Coherent) ∧
      (∀ (table : Table) (change : Change)
        (inconsistency : Inconsistency) (left : Table),
        change.call.run table = .error inconsistency left → left = table) ∧
      ∀ (name : Text) (changes : List Change),
        (changes.foldl Table.behind { name }).Coherent := by
  have coherent := coherent_of_load loaded
  refine ⟨coherent.tableNamed.distinct, ?_, ?_, coherent.each,
    fun table change coherent => coherent.behind change,
    fun table change => change.atomic table, Table.coherent_foldl_behind⟩
  · intro place table atPlace
    have member := List.mem_of_getElem? atPlace
    have found : catalog.tableNamed? table.name = some table :=
      (coherent.tableNamed.found_iff _ _).2 ⟨member, rfl⟩
    refine ⟨atPlace, found, ?_, ?_⟩
    · rw [Catalog.tableNamed, found]
    · rw [contains_iff_mem_tableNames coherent.inStep]
      exact List.mem_map_of_mem member
  · intro name unknown
    have missing : catalog.tableNamed? name = none :=
      (coherent.tableNamed.missing_iff name).2 unknown
    refine ⟨missing, ?_, ?_⟩
    · rw [Catalog.tableNamed, missing]
    · rw [← Bool.not_eq_true, contains_iff_mem_tableNames coherent.inStep]
      exact unknown

/-- Changes of a table with two columns.  A column of the same name, an index
over a column that there is not, a second primary index and a foreign key with
too few referenced columns are refused. -/
def memberChanges : List Change :=
  [.column ⟨"id", .unknown⟩, .column ⟨"name", .unknown⟩,
    .column ⟨"id", .unknown⟩,
    .index "first" ⟨["name", "gone"], false, true⟩,
    .index "PRIMARY" ⟨["id"], true, true⟩,
    .index "second" ⟨["name"], true, true⟩,
    .index "names" ⟨["name", "id"], false, true⟩,
    .foreignKey "club" ⟨["id"], "club", []⟩]

def memberPrimary : Index :=
  ⟨"PRIMARY", [⟨"id", 0, .unknown⟩], true, true⟩

/-- The table that is left behind the changes. -/
def memberTable : Table where
  name := "member"
  columns := [⟨"id", 0, .unknown⟩, ⟨"name", 1, .unknown⟩]
  columnPlaces := [("id", 0), ("name", 1)]
  indexes :=
    [memberPrimary,
      ⟨"names", [⟨"name", 1, .unknown⟩, ⟨"id", 0, .unknown⟩], false, true⟩]
  indexPlaces := [("PRIMARY", 0), ("names", 1)]
  primary := some memberPrimary

theorem lookups_of_load_visits :
    ∃ catalog : Catalog,
      (load visitReport.engine acceptsVisits).1 = .ok catalog ∧
        catalog.tableNames = ["user", "visit"] ∧
        catalog.contains "user" = true ∧
        catalog.contains "broken" = false ∧
        (∀ table ∈ catalog.tables, table.Coherent) ∧
        memberChanges.foldl Table.behind { name := "member" } = memberTable ∧
        memberTable.Coherent := by
  have loaded :
      (load visitReport.engine acceptsVisits).1 =
        .ok ((load visitReport.engine acceptsVisits).1.toOption.getD {}) := by
    rfl
  rcases lookups_of_load loaded with
    ⟨_, found, missing, coherent, _, _, coherent_behind⟩
  have behind_eq :
      memberChanges.foldl Table.behind { name := "member" } = memberTable := by
    decide +kernel
  have coherent_member := coherent_behind "member" memberChanges
  rw [behind_eq] at coherent_member
  exact ⟨_, loaded, rfl, (found 0 _ rfl).2.2.2,
    (missing "broken" (by decide)).2.2, coherent, behind_eq, coherent_member⟩

end Catalog

end AnnotatedSql.Schema
