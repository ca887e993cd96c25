import AnnotatedSql.Proofs.Schema.ColumnOrder
import AnnotatedSql.Schema.Report

/-!
# Consistent reports and the tables that mirror them

A table is built up by adding what an engine reports, one thing at a time,
and every addition is checked against what is already there.  The report
itself is consistent or not as a whole, whatever the order of the checks.

The two views meet in reports that have been written only in part.  A table
under construction mirrors the part that has been read, which is consistent;
the next addition is accepted exactly if the part is still consistent with
it, and the extended table mirrors the extended part.
-/

namespace AnnotatedSql.Schema

/-! ## Consistent reports -/

namespace TableReport

/-- The names of the reported columns. -/
def columnNames (report : TableReport) : List Text :=
  report.columns.map ColumnDescriptor.name

/-- The name of the auto-increment column, if one is reported under a name
that is not empty. -/
def autoIncrementName (report : TableReport) : Option Text :=
  report.autoIncrement.filter fun name => !name.isEmpty

/-- A report without contradictions. -/
structure Consistent (report : TableReport) : Prop where
  distinctColumns : report.columnNames.Nodup
  ownAutoIncrement :
    ∀ name ∈ report.autoIncrementName, name ∈ report.columnNames
  distinctIndexes : (report.indexes.map Prod.fst).Nodup
  someIndexColumns : ∀ index ∈ report.indexes, index.2.columns ≠ []
  ownIndexColumns :
    ∀ index ∈ report.indexes, ∀ name ∈ index.2.columns,
      name ∈ report.columnNames
  onePrimaryIndex :
    (report.indexes.countP fun index => index.2.isPrimary) ≤ 1
  distinctForeignKeys : (report.foreignKeys.map Prod.fst).Nodup
  pairedColumns :
    ∀ foreignKey ∈ report.foreignKeys,
      foreignKey.2.columns.length = foreignKey.2.referencedColumns.length
  ownForeignKeyColumns :
    ∀ foreignKey ∈ report.foreignKeys, ∀ name ∈ foreignKey.2.columns,
      name ∈ report.columnNames

instance (report : TableReport) : Decidable report.Consistent :=
  decidable_of_iff
    (report.columnNames.Nodup ∧
      report.autoIncrementName.toList ⊆ report.columnNames ∧
      (report.indexes.map Prod.fst).Nodup ∧
      (∀ index ∈ report.indexes, index.2.columns ≠ []) ∧
      (∀ index ∈ report.indexes, index.2.columns ⊆ report.columnNames) ∧
      (report.indexes.countP fun index => index.2.isPrimary) ≤ 1 ∧
      (report.foreignKeys.map Prod.fst).Nodup ∧
      (∀ foreignKey ∈ report.foreignKeys,
        foreignKey.2.columns.length = foreignKey.2.referencedColumns.length) ∧
      ∀ foreignKey ∈ report.foreignKeys,
        foreignKey.2.columns ⊆ report.columnNames)
    ⟨fun ⟨distinctColumns, ownAutoIncrement, distinctIndexes,
        someIndexColumns, ownIndexColumns, onePrimaryIndex,
        distinctForeignKeys, pairedColumns, ownForeignKeyColumns⟩ =>
      { distinctColumns
        ownAutoIncrement := fun _ member =>
          ownAutoIncrement (Option.mem_toList.2 member)
        distinctIndexes
        someIndexColumns
        ownIndexColumns := fun index member _ own =>
          ownIndexColumns index member own
        onePrimaryIndex
        distinctForeignKeys
        pairedColumns
        ownForeignKeyColumns := fun foreignKey member _ own =>
          ownForeignKeyColumns foreignKey member own },
      fun consistent =>
        ⟨consistent.distinctColumns,
          fun _ member =>
            consistent.ownAutoIncrement _ (Option.mem_toList.1 member),
          consistent.distinctIndexes, consistent.someIndexColumns,
          fun index member _ own =>
            consistent.ownIndexColumns index member _ own,
          consistent.onePrimaryIndex, consistent.distinctForeignKeys,
          consistent.pairedColumns,
          fun foreignKey member _ own =>
            consistent.ownForeignKeyColumns foreignKey member _ own⟩⟩

/-- What a report without keys has to satisfy. -/
theorem Consistent.of_columns
    {name : Text}
    {columns : List ColumnDescriptor}
    {autoIncrement : Option Text}
    (distinct : (columns.map ColumnDescriptor.name).Nodup)
    (own :
      ∀ name ∈ autoIncrement.filter fun name => !name.isEmpty,
        name ∈ columns.map ColumnDescriptor.name) :
    ({ name, columns, autoIncrement } : TableReport).Consistent where
  distinctColumns := distinct
  ownAutoIncrement := own
  distinctIndexes := List.nodup_nil
  someIndexColumns := by simp
  ownIndexColumns := by simp
  onePrimaryIndex := Nat.zero_le 1
  distinctForeignKeys := List.nodup_nil
  pairedColumns := by simp
  ownForeignKeyColumns := by simp

/-- A part of a report that has all its columns is as consistent. -/
theorem Consistent.part
    {report : TableReport}
    (consistent : report.Consistent)
    {autoIncrement : Option Text}
    (sameAutoIncrement :
      autoIncrement = none ∨ autoIncrement = report.autoIncrement)
    {indexes : List (Text × IndexDescription)}
    (someIndexes : indexes.Sublist report.indexes)
    {foreignKeys : List (Text × ForeignKeyDescription)}
    (someForeignKeys : foreignKeys.Sublist report.foreignKeys) :
    { report with autoIncrement, indexes, foreignKeys }.Consistent where
  distinctColumns := consistent.distinctColumns
  ownAutoIncrement := by
    rcases sameAutoIncrement with rfl | rfl
    · simp [autoIncrementName]
    · exact consistent.ownAutoIncrement
  distinctIndexes := consistent.distinctIndexes.sublist (someIndexes.map _)
  someIndexColumns := fun index member =>
    consistent.someIndexColumns index (someIndexes.subset member)
  ownIndexColumns := fun index member =>
    consistent.ownIndexColumns index (someIndexes.subset member)
  onePrimaryIndex :=
    someIndexes.countP_le.trans consistent.onePrimaryIndex
  distinctForeignKeys :=
    consistent.distinctForeignKeys.sublist (someForeignKeys.map _)
  pairedColumns := fun foreignKey member =>
    consistent.pairedColumns foreignKey (someForeignKeys.subset member)
  ownForeignKeyColumns := fun foreignKey member =>
    consistent.ownForeignKeyColumns foreignKey (someForeignKeys.subset member)

/-- What one more column has to satisfy. -/
theorem consistent_columns_append_iff
    {name : Text}
    {before : List ColumnDescriptor}
    {descriptor : ColumnDescriptor} :
    ({ name, columns := before ++ [descriptor] } : TableReport).Consistent ↔
      descriptor.name ∉ before.map ColumnDescriptor.name ∧
        ({ name, columns := before } : TableReport).Consistent := by
  have distinct_iff :=
    Lists.nodup_map_append_singleton_iff ColumnDescriptor.name before descriptor
  constructor
  · intro consistent
    rcases distinct_iff.1 consistent.distinctColumns with ⟨fresh, distinct⟩
    exact ⟨fresh, .of_columns distinct (by simp)⟩
  · rintro ⟨fresh, consistent⟩
    exact .of_columns (distinct_iff.2 ⟨fresh, consistent.distinctColumns⟩)
      (by simp)

/-- What one more index has to satisfy. -/
structure AdmitsIndex
    (report : TableReport)
    (index : Text × IndexDescription) : Prop where
  fresh : index.1 ∉ report.indexes.map Prod.fst
  someColumns : index.2.columns ≠ []
  ownColumns : ∀ name ∈ index.2.columns, name ∈ report.columnNames
  firstPrimary :
    index.2.isPrimary = true →
      ∀ earlier ∈ report.indexes, earlier.2.isPrimary = false

theorem consistent_indexes_append_iff
    (report : TableReport)
    (index : Text × IndexDescription) :
    { report with indexes := report.indexes ++ [index] }.Consistent ↔
      report.Consistent ∧ report.AdmitsIndex index := by
  have distinct_iff :=
    Lists.nodup_map_append_singleton_iff Prod.fst report.indexes index
  have onePrimary_iff :
      ((report.indexes ++ [index]).countP fun index => index.2.isPrimary) ≤ 1 ↔
        (report.indexes.countP fun index => index.2.isPrimary) ≤ 1 ∧
          (index.2.isPrimary = true →
            ∀ earlier ∈ report.indexes, earlier.2.isPrimary = false) := by
    have none_iff := List.countP_eq_zero (l := report.indexes)
      (p := fun index => index.2.isPrimary)
    simp only [Bool.not_eq_true] at none_iff
    rw [List.countP_append, List.countP_singleton, ← none_iff]
    cases index.2.isPrimary with
    | false => simp
    | true =>
        simp only [if_true, forall_const]
        omega
  constructor
  · intro consistent
    have last : index ∈ report.indexes ++ [index] := by simp
    refine ⟨consistent.part (.inr rfl) (List.sublist_append_left ..)
      (List.Sublist.refl _), ?_⟩
    exact ⟨(distinct_iff.1 consistent.distinctIndexes).1,
      consistent.someIndexColumns index last,
      consistent.ownIndexColumns index last,
      (onePrimary_iff.1 consistent.onePrimaryIndex).2⟩
  · rintro ⟨consistent, admits⟩
    exact
      { distinctColumns := consistent.distinctColumns
        ownAutoIncrement := consistent.ownAutoIncrement
        distinctIndexes :=
          distinct_iff.2 ⟨admits.fresh, consistent.distinctIndexes⟩
        someIndexColumns :=
          List.forall_mem_append.2 ⟨consistent.someIndexColumns,
            List.forall_mem_singleton.2 admits.someColumns⟩
        ownIndexColumns :=
          List.forall_mem_append.2 ⟨consistent.ownIndexColumns,
            List.forall_mem_singleton.2 admits.ownColumns⟩
        onePrimaryIndex :=
          onePrimary_iff.2 ⟨consistent.onePrimaryIndex, admits.firstPrimary⟩
        distinctForeignKeys := consistent.distinctForeignKeys
        pairedColumns := consistent.pairedColumns
        ownForeignKeyColumns := consistent.ownForeignKeyColumns }

/-- What one more foreign key has to satisfy. -/
structure AdmitsForeignKey
    (report : TableReport)
    (foreignKey : Text × ForeignKeyDescription) : Prop where
  fresh : foreignKey.1 ∉ report.foreignKeys.map Prod.fst
  paired :
    foreignKey.2.columns.length = foreignKey.2.referencedColumns.length
  ownColumns : ∀ name ∈ foreignKey.2.columns, name ∈ report.columnNames

theorem consistent_foreignKeys_append_iff
    (report : TableReport)
    (foreignKey : Text × ForeignKeyDescription) :
    { report with
      foreignKeys := report.foreignKeys ++ [foreignKey] }.Consistent ↔
      report.Consistent ∧ report.AdmitsForeignKey foreignKey := by
  have distinct_iff :=
    Lists.nodup_map_append_singleton_iff Prod.fst report.foreignKeys foreignKey
  constructor
  · intro consistent
    have last : foreignKey ∈ report.foreignKeys ++ [foreignKey] := by simp
    refine ⟨consistent.part (.inr rfl) (List.Sublist.refl _)
      (List.sublist_append_left ..), ?_⟩
    exact ⟨(distinct_iff.1 consistent.distinctForeignKeys).1,
      consistent.pairedColumns foreignKey last,
      consistent.ownForeignKeyColumns foreignKey last⟩
  · rintro ⟨consistent, admits⟩
    exact
      { distinctColumns := consistent.distinctColumns
        ownAutoIncrement := consistent.ownAutoIncrement
        distinctIndexes := consistent.distinctIndexes
        someIndexColumns := consistent.someIndexColumns
        ownIndexColumns := consistent.ownIndexColumns
        onePrimaryIndex := consistent.onePrimaryIndex
        distinctForeignKeys :=
          distinct_iff.2 ⟨admits.fresh, consistent.distinctForeignKeys⟩
        pairedColumns :=
          List.forall_mem_append.2 ⟨consistent.pairedColumns,
            List.forall_mem_singleton.2 admits.paired⟩
        ownForeignKeyColumns :=
          List.forall_mem_append.2 ⟨consistent.ownForeignKeyColumns,
            List.forall_mem_singleton.2 admits.ownColumns⟩ }

end TableReport

/-! ## Tables that mirror reports -/

/-- An index as an engine would describe it. -/
def Index.described (index : Index) : Text × IndexDescription :=
  (index.name,
    ⟨index.columns.map Column.name, index.isPrimary, index.isUnique⟩)

/-- A foreign key as an engine would describe it. -/
def ForeignKey.described
    (foreignKey : ForeignKey) :
    Text × ForeignKeyDescription :=
  (foreignKey.name,
    ⟨foreignKey.columns.map Column.name, foreignKey.referencedTable,
      foreignKey.referencedColumns⟩)

/--
A table holds what a report says, all of it, in order and nothing else.  The
columns that it refers to are its own, and its lists and places are in step.
-/
structure Table.Mirrors (table : Table) (report : TableReport) : Prop where
  inStep : table.InStep
  name : table.name = report.name
  columns : table.columns = numberedFrom 0 report.columns
  autoIncrement :
    table.autoIncrement.map Column.name = report.autoIncrementName
  ownAutoIncrement : ∀ column ∈ table.autoIncrement, column ∈ table.columns
  indexes : table.indexes.map Index.described = report.indexes
  ownIndexColumns :
    ∀ index ∈ table.indexes, ∀ column ∈ index.columns, column ∈ table.columns
  primary : table.primary = table.indexes.find? Index.isPrimary
  foreignKeys :
    table.foreignKeys.map ForeignKey.described = report.foreignKeys
  ownForeignKeyColumns :
    ∀ foreignKey ∈ table.foreignKeys, ∀ column ∈ foreignKey.columns,
      column ∈ table.columns

namespace Table

variable
    {table : Table}
    {report : TableReport}

@[simp]
theorem map_name_numberedFrom
    (first : Nat)
    (descriptors : List ColumnDescriptor) :
    (numberedFrom first descriptors).map Column.name =
      descriptors.map ColumnDescriptor.name := by
  induction descriptors generalizing first with
  | nil => rfl
  | cons descriptor descriptors induction_hypothesis =>
      rw [numberedFrom_cons, List.map_cons, List.map_cons,
        induction_hypothesis]

theorem Mirrors.columnNames_eq
    (mirrors : table.Mirrors report) :
    table.columns.map Column.name = report.columnNames := by
  rw [mirrors.columns, map_name_numberedFrom]
  rfl

theorem Mirrors.indexNames_eq
    (mirrors : table.Mirrors report) :
    table.indexes.map Index.name = report.indexes.map Prod.fst := by
  rw [← mirrors.indexes, List.map_map]
  rfl

theorem Mirrors.foreignKeyNames_eq
    (mirrors : table.Mirrors report) :
    table.foreignKeys.map ForeignKey.name =
      report.foreignKeys.map Prod.fst := by
  rw [← mirrors.foreignKeys, List.map_map]
  rfl

theorem Mirrors.contains_column_iff
    (mirrors : table.Mirrors report)
    (name : Text) :
    table.columnPlaces.contains name = true ↔ name ∈ report.columnNames := by
  rw [mirrors.inStep.columns.contains_iff, mirrors.columnNames_eq]

theorem Mirrors.contains_index_iff
    (mirrors : table.Mirrors report)
    (name : Text) :
    table.indexPlaces.contains name = true ↔
      name ∈ report.indexes.map Prod.fst := by
  rw [mirrors.inStep.indexes.contains_iff, mirrors.indexNames_eq]

theorem Mirrors.contains_foreignKey_iff
    (mirrors : table.Mirrors report)
    (name : Text) :
    table.foreignKeyPlaces.contains name = true ↔
      name ∈ report.foreignKeys.map Prod.fst := by
  rw [mirrors.inStep.foreignKeys.contains_iff, mirrors.foreignKeyNames_eq]

theorem Mirrors.isSome_columnNamed?_iff
    (mirrors : table.Mirrors report)
    (name : Text) :
    (table.columnNamed? name).isSome = true ↔ name ∈ report.columnNames := by
  rw [columnNamed?, mirrors.inStep.columns.isSome_itemNamed?_iff,
    mirrors.columnNames_eq]

/-- The columns of a table have the names that they are found by. -/
theorem InStep.columnNamed?_eq_some_iff
    (inStep : table.InStep)
    {name : Text}
    {column : Column} :
    table.columnNamed? name = some column ↔
      column ∈ table.columns ∧ column.name = name :=
  inStep.columns.itemNamed?_eq_some_iff name column

end Table

/-! ## Decisions -/

/--
An outcome is decided by a condition: it is accepted with a result that
satisfies a property if the condition holds, and refused with an
inconsistency, wrapped as a fault, if not.
-/
inductive Decides
    {Fault Result : Type}
    (wrap : Inconsistency → Fault)
    (condition : Prop)
    (Holds : Result → Prop) :
    Except Fault Result → Prop where
  | accepted
      {result : Result}
      (met : condition)
      (holds : Holds result) :
      Decides wrap condition Holds (.ok result)
  | refused
      (inconsistency : Inconsistency)
      (notMet : ¬ condition) :
      Decides wrap condition Holds (.error (wrap inconsistency))

namespace Decides

variable
    {Fault Result Result' Item : Type}
    {wrap : Inconsistency → Fault}
    {condition condition' : Prop}
    {Holds : Result → Prop}
    {Holds' : Result' → Prop}

theorem mapError
    {outcome : Except Inconsistency Result}
    (decided : Decides id condition Holds outcome)
    (wrap : Inconsistency → Fault) :
    Decides wrap condition Holds (outcome.mapError wrap) := by
  cases decided with
  | accepted met holds => exact .accepted met holds
  | refused inconsistency notMet => exact .refused inconsistency notMet

/-- A decision by an equivalent condition. -/
theorem of_iff
    {outcome : Except Fault Result}
    (decided : Decides wrap condition Holds outcome)
    (equivalent : condition' ↔ condition) :
    Decides wrap condition' Holds outcome := by
  rw [equivalent]
  exact decided

/-- A change of the result keeps a decision. -/
theorem map
    {outcome : Except Fault Result}
    {change : Result → Result'}
    (decided : Decides wrap condition Holds outcome)
    (keeps :
      ∀ result, outcome = .ok result → Holds result →
        Holds' (change result)) :
    Decides wrap condition Holds' (outcome.map change) := by
  cases decided with
  | accepted met holds => exact .accepted met (keeps _ rfl holds)
  | refused inconsistency notMet => exact .refused inconsistency notMet

/-- Two decisions in turn, where the second condition contains the first. -/
theorem bind
    {outcome : Except Fault Result}
    {next : Result → Except Fault Result'}
    (first : Decides wrap condition Holds outcome)
    (second :
      ∀ result, condition → Holds result →
        Decides wrap condition' Holds' (next result))
    (contains : condition' → condition) :
    Decides wrap condition' Holds' (outcome >>= next) := by
  cases first with
  | accepted met holds => exact second _ met holds
  | refused inconsistency notMet =>
      exact .refused inconsistency fun met => notMet (contains met)

variable
    {Valid : List Item → Prop}
    {Holds : List Item → Result → Prop}
    {step : Result → Item → Except Fault Result}
    {items : List Item}
    {start : Result}

/--
A run of decisions behind others.  The condition of each step concerns all
items up to the one that is added, and contains those of the earlier steps.
-/
theorem foldlM_append
    (contains : ∀ before item, Valid (before ++ [item]) → Valid before)
    (decides :
      ∀ before, ∀ item ∈ items, ∀ result,
        Valid before → Holds before result →
          Decides wrap (Valid (before ++ [item])) (Holds (before ++ [item]))
            (step result item))
    (before : List Item)
    (valid : Valid before)
    (holds : Holds before start) :
    Decides wrap (Valid (before ++ items)) (Holds (before ++ items))
      (items.foldlM step start) := by
  induction items generalizing before start with
  | nil =>
      rw [List.append_nil]
      exact .accepted valid holds
  | cons item items induction_hypothesis =>
      have containsAll (others : List Item) :
          Valid (before ++ [item] ++ others) → Valid (before ++ [item]) := by
        induction others using List.reverseRecOn with
        | nil => exact fun valid => by rwa [List.append_nil] at valid
        | append_singleton others other induction_hypothesis =>
            intro valid
            rw [← List.append_assoc] at valid
            exact induction_hypothesis (contains _ other valid)
      rw [List.foldlM_cons, ← List.singleton_append, ← List.append_assoc]
      refine (decides before item (List.mem_cons_self ..) start valid
        holds).bind ?_ (containsAll items)
      intro result valid holds
      refine induction_hypothesis ?_ (before ++ [item]) valid holds
      intro before' item' member
      exact decides before' item' (List.mem_cons_of_mem _ member)

/-- A run of decisions from the start. -/
theorem foldlM
    (Valid : List Item → Prop)
    (Holds : List Item → Result → Prop)
    (contains : ∀ before item, Valid (before ++ [item]) → Valid before)
    (decides :
      ∀ before, ∀ item ∈ items, ∀ result,
        Valid before → Holds before result →
          Decides wrap (Valid (before ++ [item])) (Holds (before ++ [item]))
            (step result item))
    (valid : Valid [])
    (holds : Holds [] start) :
    Decides wrap (Valid items) (Holds items) (items.foldlM step start) :=
  foldlM_append contains decides [] valid holds

end Decides

/-! ## Checked additions -/

namespace Table

variable
    {table : Table}
    {report : TableReport}

/-- A table without anything mirrors an empty report. -/
theorem mirrors_named (name : Text) :
    ({ name } : Table).Mirrors { name } where
  inStep := inStep_named name
  name := rfl
  columns := rfl
  autoIncrement := rfl
  ownAutoIncrement := by simp
  indexes := rfl
  ownIndexColumns := by simp
  primary := rfl
  foreignKeys := rfl
  ownForeignKeyColumns := by simp

/-- A column is added exactly if its name is new. -/
theorem decides_addColumn
    {name : Text}
    {before : List ColumnDescriptor}
    (mirrors : table.Mirrors { name, columns := before })
    (consistent : ({ name, columns := before } : TableReport).Consistent)
    (descriptor : ColumnDescriptor) :
    Decides id
      ({ name, columns := before ++ [descriptor] } : TableReport).Consistent
      (fun extended : Table =>
        extended.Mirrors { name, columns := before ++ [descriptor] })
      ((addColumn descriptor).outcome table) := by
  have taken_iff := mirrors.contains_column_iff descriptor.name
  rw [TableReport.consistent_columns_append_iff, outcome_addColumn, newColumn]
  by_cases taken : table.columnPlaces.contains descriptor.name = true
  · rw [if_pos taken]
    exact .refused (.duplicateColumn descriptor.name table.name)
      fun admitted => admitted.1 (taken_iff.1 taken)
  · rw [if_neg taken]
    refine .accepted ⟨fun known => taken (taken_iff.2 known), consistent⟩ ?_
    -- Neither an auto-increment column nor a key can refer to the columns yet.
    have noAutoIncrement : table.autoIncrement = none := by
      rw [← Option.map_eq_none_iff, mirrors.autoIncrement]
      rfl
    have noIndexes : table.indexes = [] :=
      List.map_eq_nil_iff.1 mirrors.indexes
    have noForeignKeys : table.foreignKeys = [] :=
      List.map_eq_nil_iff.1 mirrors.foreignKeys
    exact
      { inStep := mirrors.inStep.withColumn (Bool.eq_false_iff.2 taken)
        name := mirrors.name
        columns := by
          simp only [withColumn, mirrors.columns, numberedFrom,
            List.mapIdx_append, List.mapIdx_cons, List.mapIdx_nil,
            List.length_mapIdx]
          simp
        autoIncrement := mirrors.autoIncrement
        ownAutoIncrement := by simp [withColumn, noAutoIncrement]
        indexes := mirrors.indexes
        ownIndexColumns := by simp [withColumn, noIndexes]
        primary := mirrors.primary
        foreignKeys := mirrors.foreignKeys
        ownForeignKeyColumns := by simp [withColumn, noForeignKeys] }

/-- A column is found by its name, or the name is unknown. -/
theorem decides_referredColumn
    (mirrors : table.Mirrors report)
    (referrer : Referrer)
    (name : Text) :
    Decides id
      (name ∈ report.columnNames)
      (fun column : Column => column.name = name ∧ column ∈ table.columns)
      (table.referredColumn referrer name) := by
  have known_iff := mirrors.isSome_columnNamed?_iff name
  unfold referredColumn
  cases found : table.columnNamed? name with
  | none =>
      refine .refused (.unknownColumn referrer name table.name) ?_
      rw [← known_iff, found]
      exact Bool.false_ne_true
  | some column =>
      rcases mirrors.inStep.columnNamed?_eq_some_iff.1 found with
        ⟨own, name_eq⟩
      rw [found] at known_iff
      exact .accepted (known_iff.1 rfl) ⟨name_eq, own⟩

/-- The auto-increment column is set exactly if it is a column of the table,
or none is reported. -/
theorem decides_setAutoIncrement
    {name : Text}
    {columns : List ColumnDescriptor}
    (mirrors : table.Mirrors { name, columns })
    (consistent : ({ name, columns } : TableReport).Consistent)
    (autoIncrement : Option Text) :
    Decides id
      ({ name, columns, autoIncrement } : TableReport).Consistent
      (fun extended : Table =>
        extended.Mirrors { name, columns, autoIncrement })
      ((setAutoIncrement autoIncrement).outcome table) := by
  have unset
      (none_eq : autoIncrement.filter (fun name => !name.isEmpty) = none) :
      Decides id
        ({ name, columns, autoIncrement } : TableReport).Consistent
        (fun extended : Table =>
          extended.Mirrors { name, columns, autoIncrement })
        (.ok table) := by
    refine .accepted (.of_columns consistent.distinctColumns ?_)
      { mirrors with autoIncrement := ?_ }
    · simp [none_eq]
    · rw [mirrors.autoIncrement, TableReport.autoIncrementName,
        TableReport.autoIncrementName, none_eq]
      rfl
  rw [outcome_setAutoIncrement]
  split
  · exact unset rfl
  · exact unset rfl
  next reported reported_ne =>
  have given :
      (some reported).filter (fun name : Text => !name.isEmpty) =
        some reported := by
    cases reported with
    | nil => exact absurd rfl reported_ne
    | cons point reported => rfl
  have own_iff :
      ({ name, columns, autoIncrement := some reported } :
        TableReport).Consistent ↔
        reported ∈ columns.map ColumnDescriptor.name := by
    constructor
    · exact fun admitted => admitted.ownAutoIncrement reported given
    · intro own
      refine .of_columns consistent.distinctColumns ?_
      rw [given]
      rintro _ ⟨rfl⟩
      exact own
  refine ((decides_referredColumn mirrors .autoIncrement
    reported).of_iff own_iff).map ?_
  rintro column _ ⟨name_eq, own⟩
  exact
    { mirrors with
      inStep := { mirrors.inStep with }
      autoIncrement := (congrArg some name_eq).trans given.symm
      ownAutoIncrement := by
        rintro _ ⟨rfl⟩
        exact own }

/-- Columns are found by their names, all of them or a name is unknown. -/
theorem decides_mapM_referredColumn
    (mirrors : table.Mirrors report)
    (referrer : Referrer)
    (names : List Text) :
    Decides id
      (∀ name ∈ names, name ∈ report.columnNames)
      (fun columns : List Column => columns.map Column.name = names)
      (names.mapM (table.referredColumn referrer)) := by
  induction names with
  | nil => exact .accepted (List.forall_mem_nil _) rfl
  | cons name names induction_hypothesis =>
      rw [List.mapM_cons, List.forall_mem_cons]
      refine (decides_referredColumn mirrors referrer name).bind ?_ And.left
      rintro column known ⟨name_eq, _⟩
      refine induction_hypothesis.bind ?_ And.right
      intro columns others names_eq
      refine .accepted ⟨known, others⟩ ?_
      rw [List.map_cons, name_eq, names_eq]

theorem Mirrors.primary_eq_none_iff
    (mirrors : table.Mirrors report) :
    table.primary = none ↔
      ∀ index ∈ report.indexes, index.2.isPrimary = false := by
  rw [mirrors.primary, List.find?_eq_none, ← mirrors.indexes]
  simp [Index.described]

/-- One more index, which is the first of the primary ones if it is marked. -/
theorem Mirrors.withIndex
    (mirrors : table.Mirrors report)
    {index : Index}
    (fresh : table.indexPlaces.contains index.name = false)
    (own : ∀ column ∈ index.columns, column ∈ table.columns)
    (first : index.isPrimary = true → table.primary = none) :
    (table.withIndex index).Mirrors
      { report with indexes := report.indexes ++ [index.described] } where
  inStep := mirrors.inStep.withIndex fresh
  name := mirrors.name
  columns := mirrors.columns
  autoIncrement := mirrors.autoIncrement
  ownAutoIncrement := mirrors.ownAutoIncrement
  indexes := by
    simp only [Table.withIndex, List.map_append, mirrors.indexes,
      List.map_singleton]
  ownIndexColumns :=
    List.forall_mem_append.2 ⟨mirrors.ownIndexColumns,
      List.forall_mem_singleton.2 own⟩
  primary := by
    have primary_eq := mirrors.primary
    cases marked : index.isPrimary with
    | false => simp [Table.withIndex, marked, primary_eq]
    | true =>
        rw [first marked] at primary_eq
        simp [Table.withIndex, marked, ← primary_eq]
  foreignKeys := mirrors.foreignKeys
  ownForeignKeyColumns := mirrors.ownForeignKeyColumns

/-- An index is found to be added exactly if the report admits it. -/
theorem decides_newIndex
    (mirrors : table.Mirrors report)
    (consistent : report.Consistent)
    (name : Text)
    (description : IndexDescription) :
    Decides id
      (report.Consistent ∧ report.AdmitsIndex (name, description))
      (fun index : Index => index.described = (name, description))
      (table.newIndex name description.columns description.isPrimary
        description.isUnique) := by
  have taken_iff := mirrors.contains_index_iff name
  unfold newIndex
  by_cases taken : table.indexPlaces.contains name = true
  · rw [if_pos taken]
    exact .refused (.duplicateIndex name table.name)
      fun admitted => admitted.2.fresh (taken_iff.1 taken)
  rw [if_neg taken]
  by_cases empty : description.columns.isEmpty = true
  · rw [if_pos empty]
    exact .refused (.indexWithoutColumns name table.name)
      fun admitted =>
        admitted.2.someColumns (List.isEmpty_iff.1 empty)
  rw [if_neg empty]
  refine (decides_mapM_referredColumn mirrors (.index name)
    description.columns).bind ?_ fun admitted => admitted.2.ownColumns
  intro columns known names_eq
  have primary_iff := mirrors.primary_eq_none_iff
  split
  · next marked found =>
    refine .refused (.twoPrimaryIndexes table.name _ name) ?_
    intro admitted
    rw [primary_iff.2 (admitted.2.firstPrimary marked)] at found
    cases found
  · next alone =>
    refine .accepted ⟨consistent, ?_⟩ ?_
    · exact
        { fresh := fun known => taken (taken_iff.2 known)
          someColumns := fun none_eq => empty (List.isEmpty_iff.2 none_eq)
          ownColumns := known
          firstPrimary := fun marked => primary_iff.1
            (Option.eq_none_iff_forall_ne_some.2 fun first =>
              alone first marked) }
    · rw [Index.described, names_eq]

/-- An index is added exactly if the report admits it. -/
theorem decides_addIndex
    (mirrors : table.Mirrors report)
    (consistent : report.Consistent)
    (name : Text)
    (description : IndexDescription) :
    Decides id
      { report with
        indexes := report.indexes ++ [(name, description)] }.Consistent
      (fun extended : Table =>
        extended.Mirrors { report with
          indexes := report.indexes ++ [(name, description)] })
      ((addIndex name description.columns description.isPrimary
        description.isUnique).outcome table) := by
  rw [TableReport.consistent_indexes_append_iff, outcome_addIndex]
  refine (decides_newIndex mirrors consistent name description).map ?_
  intro index found described
  rcases of_newIndex found with ⟨fresh, own, first⟩
  rw [← described]
  exact mirrors.withIndex fresh own first

/-- A foreign key is found to be added exactly if the report admits it. -/
theorem decides_newForeignKey
    (mirrors : table.Mirrors report)
    (consistent : report.Consistent)
    (name : Text)
    (description : ForeignKeyDescription) :
    Decides id
      (report.Consistent ∧ report.AdmitsForeignKey (name, description))
      (fun foreignKey : ForeignKey =>
        foreignKey.described = (name, description))
      (table.newForeignKey name description.columns
        description.referencedTable description.referencedColumns) := by
  have taken_iff := mirrors.contains_foreignKey_iff name
  unfold newForeignKey
  by_cases taken : table.foreignKeyPlaces.contains name = true
  · rw [if_pos taken]
    exact .refused (.duplicateForeignKey name table.name)
      fun admitted => admitted.2.fresh (taken_iff.1 taken)
  rw [if_neg taken]
  by_cases unequal :
      description.columns.length ≠ description.referencedColumns.length
  · rw [if_pos unequal]
    exact .refused
      (.unequalColumnCounts name table.name description.columns.length
        description.referencedColumns.length)
      fun admitted => unequal admitted.2.paired
  rw [if_neg unequal]
  refine (decides_mapM_referredColumn mirrors (.foreignKey name)
    description.columns).bind ?_ fun admitted => admitted.2.ownColumns
  intro columns known names_eq
  refine .accepted ⟨consistent, ?_⟩ ?_
  · exact
      { fresh := fun known => taken (taken_iff.2 known)
        paired := not_not.1 unequal
        ownColumns := known }
  · rw [ForeignKey.described, names_eq]

theorem Mirrors.withForeignKey
    (mirrors : table.Mirrors report)
    {foreignKey : ForeignKey}
    (fresh : table.foreignKeyPlaces.contains foreignKey.name = false)
    (own : ∀ column ∈ foreignKey.columns, column ∈ table.columns) :
    (table.withForeignKey foreignKey).Mirrors
      { report with
        foreignKeys := report.foreignKeys ++ [foreignKey.described] } where
  inStep := mirrors.inStep.withForeignKey fresh
  name := mirrors.name
  columns := mirrors.columns
  autoIncrement := mirrors.autoIncrement
  ownAutoIncrement := mirrors.ownAutoIncrement
  indexes := mirrors.indexes
  ownIndexColumns := mirrors.ownIndexColumns
  primary := mirrors.primary
  foreignKeys := by
    simp only [Table.withForeignKey, List.map_append, mirrors.foreignKeys,
      List.map_singleton]
  ownForeignKeyColumns :=
    List.forall_mem_append.2 ⟨mirrors.ownForeignKeyColumns,
      List.forall_mem_singleton.2 own⟩

/-- A foreign key is added exactly if the report admits it. -/
theorem decides_addForeignKey
    (mirrors : table.Mirrors report)
    (consistent : report.Consistent)
    (name : Text)
    (description : ForeignKeyDescription) :
    Decides id
      { report with
        foreignKeys :=
          report.foreignKeys ++ [(name, description)] }.Consistent
      (fun extended : Table =>
        extended.Mirrors { report with
          foreignKeys := report.foreignKeys ++ [(name, description)] })
      ((addForeignKey name description.columns description.referencedTable
        description.referencedColumns).outcome table) := by
  rw [TableReport.consistent_foreignKeys_append_iff, outcome_addForeignKey]
  refine (decides_newForeignKey mirrors consistent name description).map ?_
  intro foreignKey found described
  rcases of_newForeignKey found with ⟨fresh, own⟩
  rw [← described]
  exact mirrors.withForeignKey fresh own

end Table

end AnnotatedSql.Schema
