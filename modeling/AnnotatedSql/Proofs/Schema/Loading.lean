import AnnotatedSql.Proofs.Schema.Consistency

/-!
# Catalogs load from consistent reports, and mirror them

An engine reports the tables that a filter accepts when it answers every
question about them.  The catalog then loads exactly if the reports do not
contradict themselves or one another, and mirrors them table by table;
otherwise loading ends with an inconsistency.

What the engine would say about other tables is never asked: two engines that
report the same accepted tables load the same catalog or fail alike, whatever
they hold against each other elsewhere.
-/

namespace AnnotatedSql.Schema

/-! ## Engines and their reports -/

/--
An engine answers with a report whatever it is asked about the table of the
report.  An engine that does not support auto-increment columns is not asked
for one.
-/
structure Engine.Describes (engine : Engine) (report : TableReport) : Prop where
  columns : engine.columns report.name = .ok report.columns
  autoIncrement :
    report.autoIncrement =
      if engine.supportsAutoIncrement then
        engine.autoIncrementColumn report.name
      else
        none
  indexNames :
    (engine.indexes report.name).names = report.indexes.map Prod.fst
  indexes :
    ∀ index ∈ report.indexes,
      engine.describeIndex report.name index.1 = .ok index.2
  foreignKeyNames :
    engine.foreignKeyNames report.name = report.foreignKeys.map Prod.fst
  foreignKeys :
    ∀ foreignKey ∈ report.foreignKeys,
      engine.describeForeignKey report.name foreignKey.1 = .ok foreignKey.2

/-- An engine reports the tables that a filter accepts, in order. -/
structure Engine.Reports
    (engine : Engine)
    (accepts : Text → Bool)
    (reports : List TableReport) : Prop where
  names : engine.tableNames.filter accepts = reports.map TableReport.name
  described : ∀ report ∈ reports, engine.Describes report

/-- Two engines answer alike whatever they are asked about a table. -/
structure Engine.AgreesOn
    (engine other : Engine)
    (table : Text) : Prop where
  columns : engine.columns table = other.columns table
  autoIncrement :
    engine.autoIncrementColumn table = other.autoIncrementColumn table
  indexes : engine.indexes table = other.indexes table
  describeIndex : engine.describeIndex table = other.describeIndex table
  foreignKeyNames :
    engine.foreignKeyNames table = other.foreignKeyNames table
  describeForeignKey :
    engine.describeForeignKey table = other.describeForeignKey table

/-- Reports of tables with distinct names, each without contradictions. -/
structure Consistent (reports : List TableReport) : Prop where
  distinctTables : (reports.map TableReport.name).Nodup
  each : ∀ report ∈ reports, report.Consistent

instance (reports : List TableReport) : Decidable (Consistent reports) :=
  decidable_of_iff
    ((reports.map TableReport.name).Nodup ∧
      ∀ report ∈ reports, report.Consistent)
    ⟨fun ⟨distinctTables, each⟩ => { distinctTables, each },
      fun consistent => ⟨consistent.distinctTables, consistent.each⟩⟩

/-- A catalog holds the reported tables, in order and nothing else, and has
their places by name. -/
structure Catalog.Mirrors
    (catalog : Catalog)
    (reports : List TableReport) : Prop where
  inStep : catalog.InStep
  tables : List.Forall₂ Table.Mirrors catalog.tables reports

theorem consistent_append_iff
    {before : List TableReport}
    {report : TableReport} :
    Consistent (before ++ [report]) ↔
      Consistent before ∧ report.name ∉ before.map TableReport.name ∧
        report.Consistent := by
  have distinct_iff :=
    Lists.nodup_map_append_singleton_iff TableReport.name before report
  constructor
  · rintro ⟨distinct, each⟩
    rw [List.forall_mem_append, List.forall_mem_singleton] at each
    rcases distinct_iff.1 distinct with ⟨fresh, distinctBefore⟩
    exact ⟨⟨distinctBefore, each.1⟩, fresh, each.2⟩
  · rintro ⟨consistent, fresh, last⟩
    exact ⟨distinct_iff.2 ⟨fresh, consistent.distinctTables⟩,
      List.forall_mem_append.2 ⟨consistent.each,
        List.forall_mem_singleton.2 last⟩⟩

namespace Catalog

variable
    {engine other : Engine}
    {accepts : Text → Bool}
    {report : TableReport}

/-! ## One table -/

theorem decides_loadColumns
    (describes : engine.Describes report) :
    Decides .inconsistent
      { report with indexes := [], foreignKeys := [] }.Consistent
      (fun table : Table =>
        table.Mirrors { report with indexes := [], foreignKeys := [] })
      (loadColumns engine report.name) := by
  let columnsOnly (columns : List ColumnDescriptor) : TableReport :=
    { name := report.name, columns }
  have columnsDecided :
      Decides id (columnsOnly report.columns).Consistent
        (fun table : Table => table.Mirrors (columnsOnly report.columns))
        (report.columns.foldlM
          (fun table descriptor => (Table.addColumn descriptor).outcome table)
          { name := report.name }) := by
    refine Decides.foldlM
      (fun columns => (columnsOnly columns).Consistent)
      (fun columns (table : Table) => table.Mirrors (columnsOnly columns))
      ?_ ?_ (.of_columns List.nodup_nil (by simp))
      (Table.mirrors_named report.name)
    · intro before descriptor consistent
      exact (TableReport.consistent_columns_append_iff.1 consistent).2
    · intro before descriptor _ table consistent mirrors
      exact Table.decides_addColumn mirrors consistent descriptor
  rw [loadColumns, describes.columns]
  refine (columnsDecided.mapError LoadError.inconsistent).bind ?_ ?_
  · intro table consistent mirrors
    have autoIncrement_eq := describes.autoIncrement
    by_cases supports : engine.supportsAutoIncrement = true
    · rw [if_pos supports] at autoIncrement_eq ⊢
      rw [← autoIncrement_eq]
      exact (Table.decides_setAutoIncrement mirrors consistent
        report.autoIncrement).mapError LoadError.inconsistent
    · rw [if_neg supports] at autoIncrement_eq ⊢
      rw [autoIncrement_eq]
      exact .accepted consistent mirrors
  · intro consistent
    exact consistent.part (.inl rfl) (List.Sublist.refl _)
      (List.Sublist.refl _)

theorem decides_loadKeys
    (describes : engine.Describes report)
    {table : Table}
    (mirrors :
      table.Mirrors { report with indexes := [], foreignKeys := [] })
    (consistent :
      { report with indexes := [], foreignKeys := [] }.Consistent) :
    Decides .inconsistent report.Consistent
      (fun extended : Table => extended.Mirrors report)
      (loadKeys engine (engine.indexes report.name).names table) := by
  let withIndexes (indexes : List (Text × IndexDescription)) : TableReport :=
    { report with indexes, foreignKeys := [] }
  let withForeignKeys
      (foreignKeys : List (Text × ForeignKeyDescription)) : TableReport :=
    { report with foreignKeys }
  have indexesDecided :
      Decides .inconsistent (withIndexes report.indexes).Consistent
        (fun extended : Table => extended.Mirrors (withIndexes report.indexes))
        ((engine.indexes report.name).names.foldlM (loadIndex engine)
          table) := by
    rw [describes.indexNames, List.foldlM_map]
    refine Decides.foldlM
      (fun indexes => (withIndexes indexes).Consistent)
      (fun indexes (table : Table) => table.Mirrors (withIndexes indexes))
      ?_ ?_ consistent mirrors
    · intro before index consistent
      exact ((withIndexes before).consistent_indexes_append_iff
        index).1 consistent |>.1
    · intro before index member table consistent mirrors
      rw [loadIndex, mirrors.name, describes.indexes index member]
      exact (Table.decides_addIndex mirrors consistent index.1
        index.2).mapError LoadError.inconsistent
  rw [loadKeys, mirrors.name, describes.foreignKeyNames]
  refine indexesDecided.bind ?_ ?_
  · intro indexed consistent mirrors
    rw [List.foldlM_map]
    refine Decides.foldlM
      (fun foreignKeys => (withForeignKeys foreignKeys).Consistent)
      (fun foreignKeys (table : Table) =>
        table.Mirrors (withForeignKeys foreignKeys))
      ?_ ?_ consistent mirrors
    · intro before foreignKey consistent
      exact ((withForeignKeys before).consistent_foreignKeys_append_iff
        foreignKey).1 consistent |>.1
    · intro before foreignKey member table consistent mirrors
      rw [loadForeignKey, mirrors.name,
        describes.foreignKeys foreignKey member]
      exact (Table.decides_addForeignKey mirrors consistent foreignKey.1
        foreignKey.2).mapError LoadError.inconsistent
  · intro consistent
    exact consistent.part (.inr rfl) (List.Sublist.refl _)
      (List.nil_sublist _)

/-- A table is loaded in two parts: its columns, then the listed keys. -/
theorem fst_loadTable_eq
    (engine : Engine)
    (name : Text) :
    (loadTable engine name).1 =
      (loadColumns engine name >>=
        loadKeys engine (engine.indexes name).names) := by
  unfold loadTable
  cases loadColumns engine name with
  | error error => rfl
  | ok table =>
      simp only [bind, Except.bind]
      cases loadKeys engine (engine.indexes name).names table <;> rfl

theorem decides_loadTable
    (describes : engine.Describes report) :
    Decides .inconsistent report.Consistent
      (fun table : Table => table.Mirrors report)
      (loadTable engine report.name).1 := by
  rw [fst_loadTable_eq]
  refine (decides_loadColumns describes).bind ?_ ?_
  · intro table consistent mirrors
    exact decides_loadKeys describes mirrors consistent
  · intro consistent
    exact consistent.part (.inr rfl) (List.nil_sublist _)
      (List.nil_sublist _)

/-! ## All tables -/

theorem Mirrors.tableNames_eq
    {reports : List TableReport}
    {catalog : Catalog}
    (mirrors : catalog.Mirrors reports) :
    catalog.tableNames = reports.map TableReport.name := by
  rw [tableNames, ← List.forall₂_eq_eq_eq, List.forall₂_map_left_iff,
    List.forall₂_map_right_iff]
  exact mirrors.tables.imp fun _ _ mirrors => mirrors.name

theorem Mirrors.contains_iff
    {before : List TableReport}
    {catalog : Catalog}
    (mirrors : catalog.Mirrors before)
    (name : Text) :
    catalog.contains name = true ↔ name ∈ before.map TableReport.name := by
  rw [← mirrors.tableNames_eq]
  exact Dictionary.Locates.contains_iff mirrors.inStep name

/-- A report decides what becomes of adding its table. -/
theorem decides_addTable
    {before : List TableReport}
    {catalog : Catalog}
    (consistent : Consistent before)
    (mirrors : catalog.Mirrors before)
    (describes : engine.Describes report) :
    Decides .inconsistent (Consistent (before ++ [report]))
      (fun extended : Catalog => extended.Mirrors (before ++ [report]))
      (addTable engine catalog report.name) := by
  have taken_iff := mirrors.contains_iff report.name
  rw [consistent_append_iff, addTable]
  by_cases taken : catalog.contains report.name = true
  · rw [if_pos taken]
    exact .refused (.duplicateTable report.name)
      fun admitted => admitted.2.1 (taken_iff.1 taken)
  · rw [if_neg taken]
    refine (decides_loadTable describes).bind ?_ fun admitted => admitted.2.2
    intro table reportConsistent tableMirrors
    refine .accepted ⟨consistent, ?_, reportConsistent⟩ ?_
    · exact fun known => taken (taken_iff.2 known)
    · have fresh : catalog.contains table.name = false := by
        rw [tableMirrors.name]
        exact Bool.eq_false_iff.2 taken
      rw [← tableMirrors.name]
      exact
        { inStep := InStep.withTable mirrors.inStep fresh
          tables := List.rel_append mirrors.tables (.cons tableMirrors .nil) }

/-- The reports of an engine decide what becomes of loading its catalog. -/
theorem decides_load
    {reports : List TableReport}
    (reported : engine.Reports accepts reports) :
    Decides .inconsistent (Consistent reports)
      (fun catalog : Catalog => catalog.Mirrors reports)
      (load engine accepts).1 := by
  rw [load, loadTables_eq_foldlM, reported.names, List.foldlM_map]
  refine Decides.foldlM Consistent
    (fun reports (catalog : Catalog) => catalog.Mirrors reports)
    ?_ ?_ ⟨List.nodup_nil, by simp⟩ ⟨Dictionary.locates_nil, .nil⟩
  · intro before report consistent
    exact (consistent_append_iff.1 consistent).1
  · intro before report member catalog consistent mirrors
    exact decides_addTable consistent mirrors (reported.described report member)

/-! ## What is not asked -/

theorem name_eq_of_loadColumns
    {name : Text}
    {table : Table}
    (loaded : loadColumns engine name = .ok table) :
    table.name = name := by
  simp only [loadColumns, Outcome.bind_eq_ok_iff,
    Outcome.mapError_eq_ok_iff] at loaded
  rcases loaded with ⟨descriptors, _, bare, added, loaded⟩
  have bare_eq := (Table.columns_of_foldlM_addColumn added).1
  split at loaded
  · rw [Outcome.mapError_eq_ok_iff] at loaded
    exact (Table.sameColumns_of_setAutoIncrement loaded).1.trans bare_eq
  · cases loaded
    exact bare_eq

theorem name_eq_of_loadIndex
    {table extended : Table}
    {index : Text}
    (loaded : loadIndex engine table index = .ok extended) :
    extended.name = table.name := by
  simp only [loadIndex, Outcome.bind_eq_ok_iff,
    Outcome.mapError_eq_ok_iff] at loaded
  rcases loaded with ⟨described, _, added⟩
  exact (Table.sameColumns_of_addIndex added).1

theorem name_eq_of_loadForeignKey
    {table extended : Table}
    {foreignKey : Text}
    (loaded : loadForeignKey engine table foreignKey = .ok extended) :
    extended.name = table.name := by
  simp only [loadForeignKey, Outcome.bind_eq_ok_iff,
    Outcome.mapError_eq_ok_iff] at loaded
  rcases loaded with ⟨described, _, added⟩
  exact (Table.sameColumns_of_addForeignKey added).1

theorem loadKeys_eq_of_agreesOn
    {table : Table}
    (agrees : other.AgreesOn engine table.name)
    (indexes : List Text) :
    loadKeys other indexes table = loadKeys engine indexes table := by
  have sameIndexes :
      indexes.foldlM (loadIndex other) table =
        indexes.foldlM (loadIndex engine) table := by
    refine Outcome.foldlM_congr (fun state => state.name = table.name)
      ?_ ?_ rfl
    · intro state index _ next loaded name_eq
      exact (name_eq_of_loadIndex loaded).trans name_eq
    · intro state index _ name_eq
      rw [loadIndex, loadIndex, name_eq, agrees.describeIndex]
  have sameForeignKeys (indexed : Table) (name_eq : indexed.name = table.name) :
      (engine.foreignKeyNames table.name).foldlM (loadForeignKey other)
          indexed =
        (engine.foreignKeyNames table.name).foldlM (loadForeignKey engine)
          indexed := by
    refine Outcome.foldlM_congr (fun state => state.name = table.name)
      ?_ ?_ name_eq
    · intro state foreignKey _ next loaded name_eq
      exact (name_eq_of_loadForeignKey loaded).trans name_eq
    · intro state foreignKey _ name_eq
      rw [loadForeignKey, loadForeignKey, name_eq, agrees.describeForeignKey]
  rw [loadKeys, loadKeys, agrees.foreignKeyNames, sameIndexes]
  cases loaded : indexes.foldlM (loadIndex engine) table with
  | error error => rfl
  | ok indexed =>
      refine sameForeignKeys indexed ?_
      refine Outcome.foldlM_induction (fun state => state.name = table.name)
        ?_ rfl loaded
      intro state index _ next loaded name_eq
      exact (name_eq_of_loadIndex loaded).trans name_eq

/-- Only what is reported about a table itself matters for its loading. -/
theorem loadTable_eq_of_agreesOn
    {name : Text}
    (supports : other.supportsAutoIncrement = engine.supportsAutoIncrement)
    (agrees : other.AgreesOn engine name) :
    loadTable other name = loadTable engine name := by
  have columns_eq : loadColumns other name = loadColumns engine name := by
    simp only [loadColumns, agrees.columns, supports, agrees.autoIncrement]
  unfold loadTable
  rw [columns_eq, agrees.indexes]
  cases loaded : loadColumns engine name with
  | error error => rfl
  | ok table =>
      have agrees : other.AgreesOn engine table.name := by
        rw [name_eq_of_loadColumns loaded]
        exact agrees
      simp only [loadKeys_eq_of_agreesOn agrees]

/-- Engines that agree on the accepted tables load alike. -/
theorem load_eq_of_agreesOn
    (supports : other.supportsAutoIncrement = engine.supportsAutoIncrement)
    (names :
      other.tableNames.filter accepts = engine.tableNames.filter accepts)
    (agrees :
      ∀ name ∈ engine.tableNames, accepts name = true →
        other.AgreesOn engine name) :
    (load other accepts).1 = (load engine accepts).1 := by
  rw [load, load, loadTables_eq_foldlM, loadTables_eq_foldlM, names]
  refine Outcome.foldlM_congr (fun _ => True) (by simp) ?_ trivial
  intro catalog name member _
  rcases List.mem_filter.1 member with ⟨reported, accepted⟩
  rw [addTable, addTable,
    loadTable_eq_of_agreesOn supports (agrees name reported accepted)]

/-! ## Consistent reports and nothing else -/

/--
A catalog loads exactly if the reports of the accepted tables are consistent,
and then mirrors them in order; inconsistent reports are refused as such.
Another engine that reports the accepted tables in the same way gives the same
outcome, whatever it answers, or fails to answer, about all other tables.
-/
theorem load_consistent
    {reports : List TableReport}
    (reported : engine.Reports accepts reports) :
    ((∃ catalog, (load engine accepts).1 = .ok catalog) ↔
        Consistent reports) ∧
      (∀ catalog, (load engine accepts).1 = .ok catalog →
        catalog.Mirrors reports) ∧
      (¬ Consistent reports →
        ∃ inconsistency,
          (load engine accepts).1 = .error (.inconsistent inconsistency)) ∧
      ∀ other : Engine,
        other.supportsAutoIncrement = engine.supportsAutoIncrement →
        other.tableNames.filter accepts = engine.tableNames.filter accepts →
        (∀ name ∈ engine.tableNames, accepts name = true →
          other.AgreesOn engine name) →
        (load other accepts).1 = (load engine accepts).1 := by
  have decided := decides_load reported
  refine ⟨?_, ?_, ?_, ?_⟩
  · generalize (load engine accepts).1 = outcome at decided
    cases decided with
    | @accepted catalog consistent mirrors => simp [consistent]
    | refused inconsistency notConsistent => simp [notConsistent]
  · intro catalog loaded
    rw [loaded] at decided
    cases decided with
    | accepted consistent mirrors => exact mirrors
  · intro notConsistent
    generalize (load engine accepts).1 = outcome at decided ⊢
    cases decided with
    | accepted consistent mirrors => exact absurd consistent notConsistent
    | refused inconsistency _ => exact ⟨inconsistency, rfl⟩
  · intro other supports names agrees
    exact load_eq_of_agreesOn supports names agrees

/-- Users with their visits, and a table that contradicts itself twice. -/
def visitReport : Report where
  tables :=
    [{ name := "user"
       columns := [⟨"id", .unknown⟩, ⟨"first", .unknown⟩, ⟨"last", .unknown⟩]
       autoIncrement := some "id"
       indexes :=
         [("primary", ⟨["id"], true, true⟩),
           ("by_name", ⟨["last", "first"], false, false⟩)] },
      { name := "broken"
        columns := [⟨"id", .unknown⟩, ⟨"id", .unknown⟩]
        indexes := [("empty", ⟨[], true, false⟩)] },
      { name := "visit"
        columns := [⟨"visitor", .unknown⟩]
        foreignKeys := [("who", ⟨["visitor"], "user", ["id"]⟩)] }]
  supportsAutoIncrement := true
  opening := "`"
  closing := "`"

/-- Every table but the one that contradicts itself. -/
def acceptsVisits (name : Text) : Bool :=
  name ≠ Text.ofString "broken"

theorem load_consistent_visits :
    visitReport.engine.Reports acceptsVisits
        [visitReport.table "user", visitReport.table "visit"] ∧
      ∃ catalog : Catalog,
        (load visitReport.engine acceptsVisits).1 = .ok catalog ∧
          catalog.Mirrors
            [visitReport.table "user", visitReport.table "visit"] := by
  have reported :
      visitReport.engine.Reports acceptsVisits
        [visitReport.table "user", visitReport.table "visit"] := by
    refine ⟨rfl, List.forall_mem_cons.2 ⟨?_, List.forall_mem_singleton.2 ?_⟩⟩
    · exact
        { columns := rfl
          autoIncrement := rfl
          indexNames := rfl
          indexes :=
            List.forall_mem_cons.2 ⟨rfl, List.forall_mem_singleton.2 rfl⟩
          foreignKeyNames := rfl
          foreignKeys := List.forall_mem_nil _ }
    · exact
        { columns := rfl
          autoIncrement := rfl
          indexNames := rfl
          indexes := List.forall_mem_nil _
          foreignKeyNames := rfl
          foreignKeys := List.forall_mem_singleton.2 rfl }
  rcases load_consistent reported with ⟨loads_iff, mirrors, _⟩
  rcases loads_iff.2 (by decide) with ⟨catalog, loaded⟩
  exact ⟨reported, catalog, loaded, mirrors catalog loaded⟩

end Catalog

end AnnotatedSql.Schema
