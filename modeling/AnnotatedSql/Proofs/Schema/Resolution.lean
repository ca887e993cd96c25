import AnnotatedSql.Proofs.Schema.Lookup
import AnnotatedSql.Proofs.Schema.Reported

/-!
# Foreign keys lead where their target was loaded

A foreign key keeps the names of what it references, and these are looked up
in the finished catalog.  So neither the order of the tables nor what was
loaded when the foreign key was added matters: it leads to its table exactly
if the table is listed and accepted, and to its columns exactly if the table
has all of them.  They come in the order of the foreign key's own columns, as
many as these, since a foreign key with sides of different lengths is refused.

There is one fault for a table that was not loaded, and one for the first
column that the table lacks.
-/

namespace AnnotatedSql.Schema

/-- A table is listed by an engine and accepted by a filter. -/
def Engine.Offers
    (engine : Engine)
    (accepts : Text → Bool)
    (name : Text) : Prop :=
  name ∈ engine.tableNames ∧ accepts name = true

namespace Catalog

variable
    {engine : Engine}
    {accepts : Text → Bool}
    {catalog : Catalog}
    {table : Table}
    {foreignKey : ForeignKey}

/-! ## The referenced table -/

/-- A table of a name is loaded exactly if it is offered. -/
theorem exists_named_iff_offers
    (loaded : (load engine accepts).1 = .ok catalog)
    (name : Text) :
    (∃ referenced ∈ catalog.tables, referenced.name = name) ↔
      engine.Offers accepts name := by
  rw [← List.mem_map, ← tableNames, tableNames_of_load loaded, List.mem_filter,
    Engine.Offers]

theorem referencedTable_eq_ok_iff
    (coherent : catalog.Coherent)
    {referenced : Table} :
    catalog.referencedTable table foreignKey = .ok referenced ↔
      referenced ∈ catalog.tables ∧
        referenced.name = foreignKey.referencedTable := by
  rw [← coherent.tableNamed.found_iff, referencedTable]
  cases catalog.tableNamed? foreignKey.referencedTable <;> simp

theorem referencedTable_eq_error_iff
    (coherent : catalog.Coherent)
    {fault : UnresolvedReference} :
    catalog.referencedTable table foreignKey = .error fault ↔
      (¬ ∃ referenced ∈ catalog.tables,
          referenced.name = foreignKey.referencedTable) ∧
        fault = .missingTable foreignKey.name table.name
          foreignKey.referencedTable := by
  rw [← List.mem_map, ← coherent.tableNamed.missing_iff, referencedTable]
  cases catalog.tableNamed? foreignKey.referencedTable with
  | some referenced => simp
  | none => simp [eq_comm]

/-- The referenced table is present exactly if the look-up finds it. -/
theorem hasReferencedTable_iff
    (coherent : catalog.Coherent) :
    catalog.hasReferencedTable foreignKey = true ↔
      ∃ referenced ∈ catalog.tables,
        referenced.name = foreignKey.referencedTable := by
  rw [hasReferencedTable, contains_iff_mem_tableNames coherent.inStep,
    tableNames, List.mem_map]

/-! ## The referenced columns -/

/-- The column that one of the names leads to in the referenced table. -/
def columnReferenced
    (table : Table)
    (foreignKey : ForeignKey)
    (referenced : Table)
    (name : Text) :
    Except UnresolvedReference Column :=
  match referenced.columnNamed? name with
  | some column => .ok column
  | none =>
      .error (.missingColumn foreignKey.name table.name name referenced.name)

theorem columnReferenced_eq_ok_iff
    {referenced : Table}
    (coherent : referenced.Coherent)
    {name : Text}
    {column : Column} :
    columnReferenced table foreignKey referenced name = .ok column ↔
      column ∈ referenced.columns ∧ column.name = name := by
  rw [← coherent.columnNamed.found_iff, columnReferenced]
  cases referenced.columnNamed? name <;> simp

theorem columnReferenced_eq_error_iff
    {referenced : Table}
    (coherent : referenced.Coherent)
    {name : Text}
    {fault : UnresolvedReference} :
    columnReferenced table foreignKey referenced name = .error fault ↔
      name ∉ referenced.columns.map Column.name ∧
        fault = .missingColumn foreignKey.name table.name name
          referenced.name := by
  rw [← coherent.columnNamed.missing_iff, columnReferenced]
  cases referenced.columnNamed? name with
  | some column => simp
  | none => simp [eq_comm]

theorem exists_columnReferenced_iff
    {referenced : Table}
    (coherent : referenced.Coherent)
    {name : Text} :
    (∃ column,
        columnReferenced table foreignKey referenced name = .ok column) ↔
      name ∈ referenced.columns.map Column.name := by
  simp only [columnReferenced_eq_ok_iff coherent, List.mem_map]

/-- The columns come name by name from the referenced table. -/
theorem referencedColumns_eq :
    catalog.referencedColumns table foreignKey =
      catalog.referencedTable table foreignKey >>= fun referenced =>
        foreignKey.referencedColumns.mapM
            (columnReferenced table foreignKey referenced) >>= fun columns =>
          .ok (referenced, columns) :=
  rfl

theorem referencedColumns_eq_ok_iff
    (coherent : catalog.Coherent)
    {referenced : Table}
    {columns : List Column} :
    catalog.referencedColumns table foreignKey = .ok (referenced, columns) ↔
      catalog.referencedTable table foreignKey = .ok referenced ∧
        List.Forall₂
          (fun name column =>
            column ∈ referenced.columns ∧ column.name = name)
          foreignKey.referencedColumns columns := by
  rw [referencedColumns_eq, Outcome.bind_eq_ok_iff]
  simp only [Outcome.bind_eq_ok_iff, Outcome.mapM_eq_ok_iff, Except.ok.injEq,
    Prod.mk.injEq]
  constructor
  · rintro ⟨_, found, _, each, rfl, rfl⟩
    have loaded := ((referencedTable_eq_ok_iff coherent).1 found).1
    refine ⟨found, each.imp fun name column referred => ?_⟩
    exact (columnReferenced_eq_ok_iff (coherent.each _ loaded)).1 referred
  · rintro ⟨found, each⟩
    have loaded := ((referencedTable_eq_ok_iff coherent).1 found).1
    refine ⟨referenced, found, columns, each.imp fun name column own => ?_,
      rfl, rfl⟩
    exact (columnReferenced_eq_ok_iff (coherent.each _ loaded)).2 own

theorem exists_referencedColumns_iff
    (coherent : catalog.Coherent) :
    (∃ answer, catalog.referencedColumns table foreignKey = .ok answer) ↔
      ∃ referenced,
        catalog.referencedTable table foreignKey = .ok referenced ∧
          ∀ name ∈ foreignKey.referencedColumns,
            name ∈ referenced.columns.map Column.name := by
  rw [referencedColumns_eq]
  simp only [Outcome.bind_eq_ok_iff]
  constructor
  · rintro ⟨_, referenced, found, columns, each, _⟩
    have loaded := ((referencedTable_eq_ok_iff coherent).1 found).1
    refine ⟨referenced, found, fun name member => ?_⟩
    exact (exists_columnReferenced_iff (coherent.each _ loaded)).1
      (Outcome.exists_mapM_eq_ok_iff.1 ⟨columns, each⟩ name member)
  · rintro ⟨referenced, found, each⟩
    have loaded := ((referencedTable_eq_ok_iff coherent).1 found).1
    have referred :
        ∃ columns, foreignKey.referencedColumns.mapM
          (columnReferenced table foreignKey referenced) = .ok columns := by
      rw [Outcome.exists_mapM_eq_ok_iff]
      intro name member
      exact (exists_columnReferenced_iff (coherent.each _ loaded)).2
        (each name member)
    rcases referred with ⟨columns, referred⟩
    exact ⟨(referenced, columns), referenced, found, columns, referred, rfl⟩

/-- The first fault is that of the table, and then that of the first column
that the table lacks. -/
theorem referencedColumns_eq_error_iff
    (coherent : catalog.Coherent)
    {fault : UnresolvedReference} :
    catalog.referencedColumns table foreignKey = .error fault ↔
      catalog.referencedTable table foreignKey = .error fault ∨
        ∃ referenced before name after,
          catalog.referencedTable table foreignKey = .ok referenced ∧
            foreignKey.referencedColumns = before ++ name :: after ∧
            (∀ earlier ∈ before,
              earlier ∈ referenced.columns.map Column.name) ∧
            name ∉ referenced.columns.map Column.name ∧
            fault =
              .missingColumn foreignKey.name table.name name
                referenced.name := by
  rw [referencedColumns_eq, Outcome.bind_eq_error_iff]
  refine or_congr_right (exists_congr fun referenced => ?_)
  constructor
  · rintro ⟨found, refused⟩
    have loaded := ((referencedTable_eq_ok_iff coherent).1 found).1
    rcases Outcome.bind_eq_error_iff.1 refused with refused | ⟨_, _, impossible⟩
    · rcases Outcome.mapM_eq_error_iff.1 refused with
        ⟨before, name, after, names_eq, earlier, missing⟩
      rcases (columnReferenced_eq_error_iff (coherent.each _ loaded)).1 missing
        with ⟨missing, fault_eq⟩
      refine ⟨before, name, after, found, names_eq, fun other member => ?_,
        missing, fault_eq⟩
      exact (exists_columnReferenced_iff (coherent.each _ loaded)).1
        (earlier other member)
    · exact nomatch impossible
  · rintro ⟨before, name, after, found, names_eq, earlier, missing, fault_eq⟩
    have loaded := ((referencedTable_eq_ok_iff coherent).1 found).1
    refine ⟨found, Outcome.bind_eq_error_iff.2 (.inl ?_)⟩
    refine Outcome.mapM_eq_error_iff.2
      ⟨before, name, after, names_eq, fun other member => ?_, ?_⟩
    · exact (exists_columnReferenced_iff (coherent.each _ loaded)).2
        (earlier other member)
    · exact (columnReferenced_eq_error_iff (coherent.each _ loaded)).2
        ⟨missing, fault_eq⟩

/-! ## Foreign keys of a loaded catalog -/

/--
What a foreign key of a table leads to in a catalog, given the engine and the
filter that the catalog was loaded with.  It leads to the one table of the
referenced name if that table is offered, and on to the columns of the
referenced names if the table has them, each paired with a column of its own;
and there is a fault in all other cases.
-/
structure Resolves
    (engine : Engine)
    (accepts : Text → Bool)
    (catalog : Catalog)
    (table : Table)
    (foreignKey : ForeignKey) : Prop where
  present_iff :
    catalog.hasReferencedTable foreignKey = true ↔
      engine.Offers accepts foreignKey.referencedTable
  table_iff :
    (∃ referenced, catalog.referencedTable table foreignKey = .ok referenced) ↔
      engine.Offers accepts foreignKey.referencedTable
  onlyTable :
    ∀ referenced,
      catalog.referencedTable table foreignKey = .ok referenced →
        ∀ other,
          other ∈ catalog.tables ∧ other.name = foreignKey.referencedTable ↔
            other = referenced
  tableFault_iff :
    ∀ fault,
      catalog.referencedTable table foreignKey = .error fault ↔
        ¬ engine.Offers accepts foreignKey.referencedTable ∧
          fault = .missingTable foreignKey.name table.name
            foreignKey.referencedTable
  columns_iff :
    (∃ answer, catalog.referencedColumns table foreignKey = .ok answer) ↔
      ∃ referenced,
        catalog.referencedTable table foreignKey = .ok referenced ∧
          ∀ name ∈ foreignKey.referencedColumns,
            name ∈ referenced.columns.map Column.name
  paired :
    ∀ referenced columns,
      catalog.referencedColumns table foreignKey = .ok (referenced, columns) →
        catalog.referencedTable table foreignKey = .ok referenced ∧
          columns.length = foreignKey.columns.length ∧
          List.Forall₂
            (fun name column =>
              column ∈ referenced.columns ∧ column.name = name)
            foreignKey.referencedColumns columns
  columnsFault_iff :
    ∀ fault,
      catalog.referencedColumns table foreignKey = .error fault ↔
        catalog.referencedTable table foreignKey = .error fault ∨
          ∃ referenced before name after,
            catalog.referencedTable table foreignKey = .ok referenced ∧
              foreignKey.referencedColumns = before ++ name :: after ∧
              (∀ earlier ∈ before,
                earlier ∈ referenced.columns.map Column.name) ∧
              name ∉ referenced.columns.map Column.name ∧
              fault =
                .missingColumn foreignKey.name table.name name
                  referenced.name

/-- A foreign key of a loaded table is the one that the engine describes
under its name, and has as many columns on either side. -/
theorem described_of_load
    (loaded : (load engine accepts).1 = .ok catalog)
    (member : table ∈ catalog.tables)
    (own : foreignKey ∈ table.foreignKeys) :
    engine.describeForeignKey table.name foreignKey.name =
        .ok foreignKey.described.2 ∧
      foreignKey.columns.length = foreignKey.referencedColumns.length := by
  rcases exists_report_of_mem_load loaded table member with
    ⟨report, described, consistent, mirrors⟩
  have reported : foreignKey.described ∈ report.foreignKeys := by
    rw [← mirrors.foreignKeys]
    exact List.mem_map_of_mem own
  constructor
  · rw [mirrors.name]
    exact described.foreignKeys _ reported
  · exact (List.length_map _).symm.trans
      (consistent.pairedColumns _ reported)

/--
A foreign key of a loaded catalog keeps the names that the engine reports, and
resolves exactly if what they name was loaded.
-/
theorem foreignKeys_of_load
    (loaded : (load engine accepts).1 = .ok catalog) :
    ∀ table ∈ catalog.tables, ∀ foreignKey ∈ table.foreignKeys,
      engine.describeForeignKey table.name foreignKey.name =
          .ok foreignKey.described.2 ∧
        catalog.Resolves engine accepts table foreignKey := by
  intro table member foreignKey own
  rcases described_of_load loaded member own with ⟨described, lengths_eq⟩
  have coherent := coherent_of_load loaded
  have offered_iff :=
    exists_named_iff_offers loaded foreignKey.referencedTable
  refine
    ⟨described,
      { present_iff := (hasReferencedTable_iff coherent).trans offered_iff
        table_iff := ?_
        onlyTable := ?_
        tableFault_iff := ?_
        columns_iff := exists_referencedColumns_iff coherent
        paired := ?_
        columnsFault_iff := fun fault =>
          referencedColumns_eq_error_iff coherent }⟩
  · rw [← offered_iff]
    exact exists_congr fun referenced => referencedTable_eq_ok_iff coherent
  · intro referenced found other
    rw [← referencedTable_eq_ok_iff coherent, found, Except.ok.injEq, eq_comm]
  · intro fault
    rw [← offered_iff]
    exact referencedTable_eq_error_iff coherent
  · intro referenced columns resolved
    rcases (referencedColumns_eq_ok_iff coherent).1 resolved with ⟨found, each⟩
    exact ⟨found, each.length_eq.symm.trans lengths_eq.symm, each⟩

/-- Members with their team and who leads them, teams that are listed behind
them, and a journal; two foreign keys lead back and forth, one to its own
table, one to the journal, and one to a column that is not there. -/
def teamReport : Report where
  tables :=
    [{ name := "member"
       columns := [⟨"id", .unknown⟩, ⟨"leader", .unknown⟩, ⟨"team", .unknown⟩]
       foreignKeys :=
         [("led", ⟨["leader"], "member", ["id"]⟩),
           ("in", ⟨["team", "leader"], "team", ["name", "head"]⟩)] },
      { name := "team"
        columns := [⟨"head", .unknown⟩, ⟨"name", .unknown⟩]
        foreignKeys :=
          [("by", ⟨["head"], "member", ["id"]⟩),
            ("noted", ⟨["name"], "journal", ["team"]⟩),
            ("also", ⟨["name"], "member", ["alias"]⟩)] },
      { name := "journal", columns := [⟨"team", .unknown⟩] }]
  opening := "`"
  closing := "`"

/-- Every table but the journal. -/
def acceptsTeams (name : Text) : Bool :=
  name ≠ Text.ofString "journal"

theorem foreignKeys_of_load_teams :
    ∃ catalog : Catalog,
      (load teamReport.engine acceptsTeams).1 = .ok catalog ∧
        (catalog.tables.flatMap fun table =>
            table.foreignKeys.map fun foreignKey =>
              (foreignKey.name, catalog.hasReferencedTable foreignKey,
                (catalog.referencedColumns table foreignKey).toOption.map
                  fun answer => answer.2.map Column.position)) =
          ([("led", true, some [0]), ("in", true, some [1, 0]),
              ("by", true, some [0]), ("noted", false, none),
              ("also", true, none)] :
            List (Text × Bool × Option (List Nat))) ∧
        ∀ table ∈ catalog.tables, ∀ foreignKey ∈ table.foreignKeys,
          catalog.Resolves teamReport.engine acceptsTeams table foreignKey := by
  have loaded :
      (load teamReport.engine acceptsTeams).1 =
        .ok ((load teamReport.engine acceptsTeams).1.toOption.getD {}) := by
    rfl
  refine ⟨_, loaded, by decide, ?_⟩
  intro table member foreignKey own
  exact (foreignKeys_of_load loaded table member foreignKey own).2

end Catalog

end AnnotatedSql.Schema
