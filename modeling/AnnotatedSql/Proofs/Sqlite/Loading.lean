import AnnotatedSql.Proofs.Schema.Reported
import AnnotatedSql.Proofs.Sqlite.Description
import AnnotatedSql.Proofs.Sqlite.ForeignKeys

/-!
# Loading what SQLite reports

SQLite guarantees much about the rows it answers: names are distinct where
they have to be, indexes and foreign keys refer to columns of their table, and
there is one primary key at most.  A catalog is then loaded, with one
exception.  The engine invents an index over the row identifier and calls it
`PRIMARY`, and SQLite lets a user give that name to an index of the same
table.  The name is then listed twice and describes the invented index both
times, so that the user's index is hidden and the catalog refuses the table.
-/

namespace AnnotatedSql.Sqlite.Database

open AnnotatedSql.Schema

variable
    {database : Database}
    {table : Text}

/-! ## What SQLite guarantees -/

/-- The rows about a table as SQLite guarantees them. -/
structure WellFormedTable (database : Database) (table : Text) : Prop where
  distinctColumns : (database.columnNames table).Nodup
  shortNumerals :
    ∀ row ∈ database.columns table,
      ∀ numeral ∈ (DeclaredType.ofText row.declaredType).numerals,
        numeral.length ≤ Numeral.longest
  distinctIndexes : ((database.indexes table).map IndexRow.name).Nodup
  someIndexColumns :
    ∀ row ∈ database.indexes table, database.indexColumns row.name ≠ []
  ownIndexColumns :
    ∀ row ∈ database.indexes table,
      ∀ column ∈ database.indexColumns row.name, ∀ name ∈ column,
        name ∈ database.columnNames table
  onePrimaryIndex :
    ((database.indexes table).countP fun row : IndexRow =>
      row.origin = "pk") ≤ 1
  naturalNumbers : ∀ row ∈ database.foreignKeys table, 0 ≤ row.number
  ownForeignKeyColumns :
    ∀ row ∈ database.foreignKeys table,
      row.childColumn ∈ database.columnNames table

/-- What a well-formed table has, in a form that can be evaluated. -/
theorem wellFormedTable_iff
    {database : Database}
    {table : Text} :
    database.WellFormedTable table ↔
      (database.columnNames table).Nodup ∧
      (∀ row ∈ database.columns table,
        ∀ numeral ∈ (DeclaredType.ofText row.declaredType).numerals,
          numeral.length ≤ Numeral.longest) ∧
      ((database.indexes table).map IndexRow.name).Nodup ∧
      (∀ row ∈ database.indexes table,
        database.indexColumns row.name ≠ []) ∧
      (∀ row ∈ database.indexes table,
        ∀ column ∈ database.indexColumns row.name, ∀ name ∈ column,
          (database.columnNames table).contains name = true) ∧
      ((database.indexes table).countP fun row : IndexRow =>
        row.origin = "pk") ≤ 1 ∧
      (∀ row ∈ database.foreignKeys table, 0 ≤ row.number) ∧
      ∀ row ∈ database.foreignKeys table,
        (database.columnNames table).contains row.childColumn = true := by
  simp only [List.contains_iff_mem]
  constructor
  · intro wellFormed
    exact ⟨wellFormed.distinctColumns, wellFormed.shortNumerals,
      wellFormed.distinctIndexes, wellFormed.someIndexColumns,
      wellFormed.ownIndexColumns, wellFormed.onePrimaryIndex,
      wellFormed.naturalNumbers, wellFormed.ownForeignKeyColumns⟩
  · rintro ⟨distinctColumns, shortNumerals, distinctIndexes, someIndexColumns,
      ownIndexColumns, onePrimaryIndex, naturalNumbers, ownForeignKeyColumns⟩
    exact ⟨distinctColumns, shortNumerals, distinctIndexes, someIndexColumns,
      ownIndexColumns, onePrimaryIndex, naturalNumbers, ownForeignKeyColumns⟩

instance (database : Database) (table : Text) :
    Decidable (database.WellFormedTable table) :=
  decidable_of_iff' _ wellFormedTable_iff

/-- The rows about a database as SQLite guarantees them. -/
structure WellFormed (database : Database) : Prop where
  distinctTables : database.tableNames.Nodup
  each : ∀ table ∈ database.tableNames, database.WellFormedTable table

instance (database : Database) : Decidable database.WellFormed :=
  decidable_of_iff
    (database.tableNames.Nodup ∧
      ∀ table ∈ database.tableNames, database.WellFormedTable table)
    ⟨fun ⟨distinctTables, each⟩ => { distinctTables, each },
      fun wellFormed => ⟨wellFormed.distinctTables, wellFormed.each⟩⟩

/-! ## The name of the index over the row identifier -/

/-- A table has an index of the name that is invented for the index over its
row identifier. -/
def HidesIndex (database : Database) (table : Text) : Prop :=
  (database.rowidColumn? table).isSome = true ∧
    ∃ row ∈ database.indexes table,
      database.isOverExpression row = false ∧ row.name = rowidIndexName

instance (database : Database) (table : Text) :
    Decidable (database.HidesIndex table) :=
  inferInstanceAs
    (Decidable ((database.rowidColumn? table).isSome = true ∧
      ∃ row ∈ database.indexes table,
        database.isOverExpression row = false ∧ row.name = rowidIndexName))

theorem mem_listedIndexes_iff
    {index : ListedIndex} :
    index ∈ database.listedIndexes table ↔
      (∃ column, database.rowidColumn? table = some column ∧
        index = .overRowid column) ∨
      ∃ row ∈ database.indexes table,
        database.isOverExpression row = false ∧ index = .real row := by
  rw [listedIndexes, List.mem_append, List.mem_map, List.mem_map]
  simp only [Option.mem_toList, List.mem_filter,
    Bool.not_eq_true', and_assoc, eq_comm (a := index)]

/-- Names are listed once exactly if no index is hidden. -/
theorem nodup_name_listedIndexes_iff
    (wellFormed : database.WellFormedTable table) :
    ((database.listedIndexes table).map ListedIndex.name).Nodup ↔
      ¬ database.HidesIndex table := by
  have distinctReal :
      (((database.indexes table).filter fun row =>
        !database.isOverExpression row).map IndexRow.name).Nodup :=
    wellFormed.distinctIndexes.sublist (List.filter_sublist.map _)
  have names_eq :
      (database.listedIndexes table).map ListedIndex.name =
        (database.rowidColumn? table).toList.map (fun _ => rowidIndexName) ++
          ((database.indexes table).filter fun row =>
            !database.isOverExpression row).map IndexRow.name := by
    rw [listedIndexes, List.map_append, List.map_map, List.map_map]
    rfl
  rw [names_eq, HidesIndex]
  cases database.rowidColumn? table with
  | none =>
      constructor
      · rintro _ ⟨impossible, _⟩
        cases impossible
      · intro _
        exact distinctReal
  | some column =>
      simp only [Option.toList_some, List.map_singleton, List.singleton_append,
        List.nodup_cons, distinctReal, and_true, Option.isSome_some, true_and,
        List.mem_map, List.mem_filter, Bool.not_eq_true', and_assoc]

theorem describeIndex_of_real
    (wellFormed : database.WellFormedTable table)
    {row : IndexRow}
    (member : row ∈ database.indexes table)
    (notRowid :
      row.name = rowidIndexName → database.rowidColumn? table = none) :
    database.describeIndex table row.name =
      .ok ((ListedIndex.real row).contents database) := by
  have rowid_eq :
      (if row.name = rowidIndexName then database.rowidColumn? table
        else none) = none := by
    split
    · next same => exact notRowid same
    · rfl
  have found :
      ((database.indexes table).find? fun other => other.name = row.name) =
        some row :=
    (Lists.find?_key_eq_some_iff wellFormed.distinctIndexes row.name row).2
      ⟨member, rfl⟩
  simp only [describeIndex, rowid_eq, found]
  rfl

theorem describeIndex_of_rowidColumn?
    {column : Text}
    (found : database.rowidColumn? table = some column) :
    database.describeIndex table rowidIndexName =
      .ok ((ListedIndex.overRowid column).contents database) := by
  rw [describeIndex, if_pos rfl, found]
  rfl

/-- The listed names are described for the indexes they stand for exactly if
no index is hidden. -/
theorem describeIndex_listed_iff
    (wellFormed : database.WellFormedTable table) :
    (∀ index ∈ database.listedIndexes table,
      database.describeIndex table index.name =
        .ok (index.contents database)) ↔
      ¬ database.HidesIndex table := by
  constructor
  · rintro described ⟨isSome, row, member, overColumns, name_eq⟩
    rcases Option.isSome_iff_exists.1 isSome with ⟨column, found⟩
    have own := described (.real row)
      (mem_listedIndexes_iff.2 (.inr ⟨row, member, overColumns, rfl⟩))
    rw [show (ListedIndex.real row).name = rowidIndexName from name_eq,
      describeIndex_of_rowidColumn? found] at own
    -- The invented index is primary, and no user's index is next to it.
    have primary_eq := congrArg IndexContents.isPrimary (Except.ok.inj own)
    rcases rowidColumn?_eq_some_iff.1 found with ⟨_, isKey, _⟩
    exact isKey.noKeyIndex row member (of_decide_eq_true primary_eq.symm)
  · intro notHidden index listed
    rcases mem_listedIndexes_iff.1 listed with
      ⟨column, found, rfl⟩ | ⟨row, member, overColumns, rfl⟩
    · exact describeIndex_of_rowidColumn? found
    · refine describeIndex_of_real wellFormed member ?_
      intro name_eq
      by_contra isSome
      exact notHidden ⟨Option.isSome_iff_ne_none.2 isSome, row, member,
        overColumns, name_eq⟩

/-! ## Reports -/

/-- The indexes of a table as a catalog is told of them. -/
def reportedIndexes
    (database : Database)
    (table : Text) : List (Text × IndexDescription) :=
  (database.listedIndexes table).map fun index =>
    (index.name, (index.contents database).description)

theorem map_fst_reportedIndexes :
    (database.reportedIndexes table).map Prod.fst =
      (database.listedIndexes table).map ListedIndex.name := by
  rw [reportedIndexes, List.map_map]
  rfl

/-- A real index that is listed has a name for each of its columns. -/
theorem columns_description_real
    {row : IndexRow}
    (overColumns : database.isOverExpression row = false) :
    ((ListedIndex.real row).contents database).description.columns.map some =
      database.indexColumns row.name := by
  rw [isOverExpression, List.any_eq_false] at overColumns
  show List.map some (List.map _ _) = _
  rw [List.map_map]
  conv_rhs => rw [← List.map_id (database.indexColumns row.name)]
  refine List.map_congr_left ?_
  intro column member
  cases column with
  | none => exact absurd rfl (overColumns none member)
  | some name => rfl

/-- The columns of a listed index are columns of the table, at least one. -/
theorem columns_of_mem_listedIndexes
    (wellFormed : database.WellFormedTable table)
    {index : ListedIndex}
    (listed : index ∈ database.listedIndexes table) :
    (index.contents database).description.columns ≠ [] ∧
      ∀ name ∈ (index.contents database).description.columns,
        name ∈ database.columnNames table := by
  rcases mem_listedIndexes_iff.1 listed with
    ⟨column, found, rfl⟩ | ⟨row, member, overColumns, rfl⟩
  · rcases rowidColumn?_eq_some_iff.1 found with ⟨row, isKey, rfl⟩
    refine ⟨List.cons_ne_nil _ _, List.forall_mem_singleton.2 ?_⟩
    exact List.mem_map_of_mem isKey.mem_columns
  · have columns_eq := columns_description_real overColumns
    constructor
    · intro none_eq
      rw [none_eq] at columns_eq
      exact wellFormed.someIndexColumns row member columns_eq.symm
    · intro name own
      refine wellFormed.ownIndexColumns row member (some name) ?_ name rfl
      rw [← columns_eq]
      exact List.mem_map_of_mem own

/-- One listed index at most is that of the primary key. -/
theorem countP_isPrimary_reportedIndexes
    (wellFormed : database.WellFormedTable table) :
    ((database.reportedIndexes table).countP fun index =>
      index.2.isPrimary) ≤ 1 := by
  have real_le :
      ((database.indexes table).filter fun row =>
        !database.isOverExpression row).countP
          (fun row => decide (row.origin = Text.ofString "pk")) ≤
        (database.indexes table).countP
          fun row => decide (row.origin = Text.ofString "pk") :=
    List.filter_sublist.countP_le
  rw [reportedIndexes, List.countP_map, listedIndexes, List.countP_append,
    List.countP_map, List.countP_map]
  cases found : database.rowidColumn? table with
  | none =>
      rw [Option.toList_none, List.countP_nil, Nat.zero_add]
      exact real_le.trans wellFormed.onePrimaryIndex
  | some column =>
      rcases rowidColumn?_eq_some_iff.1 found with ⟨_, isKey, _⟩
      have none_eq :
          (database.indexes table).countP
            (fun row => decide (row.origin = Text.ofString "pk")) = 0 := by
        rw [List.countP_eq_zero]
        intro row member
        rw [decide_eq_true_iff]
        exact isKey.noKeyIndex row member
      rw [none_eq] at real_le
      rw [Option.toList_some, List.countP_singleton]
      exact Nat.add_le_add_left real_le 1

/-- A table that hides no index is reported without contradictions. -/
theorem exists_consistent_report
    (wellFormed : database.WellFormedTable table)
    (notHidden : ¬ database.HidesIndex table)
    (bounded :
      ∀ row ∈ database.foreignKeys table,
        row.number < 10 ^ Numeral.longest) :
    ∃ report, TableReport.name report = table ∧
      database.engine.Describes report ∧ report.Consistent := by
  rcases exists_describeColumns_eq_ok_iff.2 wellFormed.shortNumerals with
    ⟨columns, columns_eq⟩
  have columnNames_eq := map_name_of_describeColumns columns_eq
  have foreignKeysDescribed :
      ∀ name ∈ database.foreignKeyNames table,
        ∃ foreignKey : Text × ForeignKeyDescription, foreignKey.1 = name ∧
          database.describeForeignKey table foreignKey.1 =
            .ok foreignKey.2 := by
    intro name listed
    rcases mem_foreignKeyNames_iff.1 listed with ⟨row, member, rfl⟩
    rcases (exists_describeForeignKey_eq_ok_iff member
      (wellFormed.naturalNumbers row member)).2 (bounded row member) with
      ⟨description, described⟩
    exact ⟨(_, description), rfl, described⟩
  rcases Lists.exists_map_eq foreignKeysDescribed with
    ⟨foreignKeys, foreignKeyNames_eq, foreignKeys_eq⟩
  let report : TableReport :=
    { name := table
      columns
      autoIncrement := database.rowidColumn? table
      indexes := database.reportedIndexes table
      foreignKeys }
  have reportNames_eq : report.columnNames = database.columnNames table :=
    columnNames_eq
  refine ⟨report, rfl, ?_, ?_⟩
  · exact
      { columns := columns_eq
        autoIncrement := rfl
        indexNames := names_listIndexes.trans map_fst_reportedIndexes.symm
        indexes := by
          intro index member
          rcases List.mem_map.1 member with ⟨index, listed, rfl⟩
          rw [describeIndex_engine,
            (describeIndex_listed_iff wellFormed).2 notHidden index listed]
          rfl
        foreignKeyNames := foreignKeyNames_eq.symm
        foreignKeys := foreignKeys_eq }
  · exact
      { distinctColumns := reportNames_eq ▸ wellFormed.distinctColumns
        ownAutoIncrement := by
          intro name reported
          rw [TableReport.autoIncrementName, Option.mem_def,
            Option.filter_eq_some_iff] at reported
          rcases rowidColumn?_eq_some_iff.1 reported.1 with ⟨row, isKey, rfl⟩
          rw [reportNames_eq]
          exact List.mem_map_of_mem isKey.mem_columns
        distinctIndexes := by
          rw [show report.indexes = _ from rfl, map_fst_reportedIndexes]
          exact (nodup_name_listedIndexes_iff wellFormed).2 notHidden
        someIndexColumns := by
          intro index member
          rcases List.mem_map.1 member with ⟨index, listed, rfl⟩
          exact (columns_of_mem_listedIndexes wellFormed listed).1
        ownIndexColumns := by
          intro index member
          rcases List.mem_map.1 member with ⟨index, listed, rfl⟩
          rw [reportNames_eq]
          exact (columns_of_mem_listedIndexes wellFormed listed).2
        onePrimaryIndex := countP_isPrimary_reportedIndexes wellFormed
        distinctForeignKeys := by
          rw [show report.foreignKeys = foreignKeys from rfl,
            foreignKeyNames_eq]
          exact nodup_foreignKeyNames
        pairedColumns := by
          intro foreignKey member
          exact (paired_of_describeForeignKey
            (foreignKeys_eq foreignKey member)).1
        ownForeignKeyColumns := by
          intro foreignKey member name own
          rcases (paired_of_describeForeignKey
            (foreignKeys_eq foreignKey member)).2 name own with
            ⟨row, rowMember, rfl⟩
          rw [reportNames_eq]
          exact wellFormed.ownForeignKeyColumns row rowMember }

/-- A table that is reported without contradictions hides no index. -/
theorem not_hidesIndex_of_report
    (wellFormed : database.WellFormedTable table)
    {report : TableReport}
    (name_eq : report.name = table)
    (describes : database.engine.Describes report)
    (consistent : report.Consistent) :
    ¬ database.HidesIndex table ∧
      ∀ row ∈ database.foreignKeys table,
        row.number < 10 ^ Numeral.longest := by
  subst name_eq
  constructor
  · rw [← nodup_name_listedIndexes_iff wellFormed, ← names_listIndexes,
      show (database.listIndexes report.name).names = _ from
        describes.indexNames]
    exact consistent.distinctIndexes
  · intro row member
    have listed :
        foreignKeyStem report.name ++ Numeral.ofInt row.number ∈
          report.foreignKeys.map Prod.fst := by
      rw [← describes.foreignKeyNames]
      exact mem_foreignKeyNames_iff.2 ⟨row, member, rfl⟩
    rcases List.mem_map.1 listed with ⟨foreignKey, reported, name_eq⟩
    have described := describes.foreignKeys foreignKey reported
    rw [name_eq] at described
    exact (exists_describeForeignKey_eq_ok_iff member
      (wellFormed.naturalNumbers row member)).1 ⟨foreignKey.2, described⟩

/-! ## Loading -/

/-- A well-formed database loads exactly if no accepted table hides an index
or has a foreign key with a number that is too long. -/
theorem exists_load_eq_ok_iff
    (wellFormed : database.WellFormed)
    (accepts : Text → Bool) :
    (∃ catalog, (Catalog.load database.engine accepts).1 = .ok catalog) ↔
      ∀ table ∈ database.tableNames, accepts table = true →
        ¬ database.HidesIndex table ∧
          ∀ row ∈ database.foreignKeys table,
            row.number < 10 ^ Numeral.longest := by
  constructor
  · rintro ⟨catalog, loaded⟩ table listed accepted
    rcases Catalog.exists_reports_of_load loaded with
      ⟨reports, reported, consistent, _⟩
    have reportedName : table ∈ reports.map TableReport.name := by
      rw [← reported.names]
      exact List.mem_filter.2 ⟨listed, accepted⟩
    rcases List.mem_map.1 reportedName with ⟨report, member, name_eq⟩
    exact not_hidesIndex_of_report (wellFormed.each table listed) name_eq
      (reported.described report member) (consistent.each report member)
  · intro each
    have reportable :
        ∀ table ∈ database.tableNames.filter accepts,
          ∃ report, TableReport.name report = table ∧
            database.engine.Describes report ∧ report.Consistent := by
      intro table member
      rcases List.mem_filter.1 member with ⟨listed, accepted⟩
      rcases each table listed accepted with ⟨notHidden, bounded⟩
      exact exists_consistent_report (wellFormed.each table listed) notHidden
        bounded
    rcases Lists.exists_map_eq reportable with
      ⟨reports, names_eq, reportsHold⟩
    have reported : database.engine.Reports accepts reports :=
      ⟨names_eq.symm, fun report member => (reportsHold report member).1⟩
    have distinct : (reports.map TableReport.name).Nodup := by
      rw [names_eq]
      exact wellFormed.distinctTables.filter _
    have consistent : Consistent reports :=
      ⟨distinct, fun report member => (reportsHold report member).2⟩
    have decided := Catalog.decides_load reported
    generalize (Catalog.load database.engine accepts).1 = outcome at decided ⊢
    cases decided with
    | @accepted catalog _ _ => exact ⟨catalog, rfl⟩
    | refused _ notConsistent => exact absurd consistent notConsistent

/--
A well-formed database loads exactly if no accepted table has a row identifier
and also an index of the name that is invented for it, provided that numbers
of foreign keys are not too long.  The indexes of a table are listed as the
row identifier, if there is one, and all indexes that are not over
expressions.  Each name is described with the columns, the uniqueness and the
primary flag of the index that it was listed for, again exactly if the
invented name is not taken.
-/
theorem load_wellFormed
    (wellFormed : database.WellFormed)
    (accepts : Text → Bool) :
    ((∃ catalog, (Catalog.load database.engine accepts).1 = .ok catalog) ↔
        ∀ table ∈ database.tableNames, accepts table = true →
          ¬ database.HidesIndex table ∧
            ∀ row ∈ database.foreignKeys table,
              row.number < 10 ^ Numeral.longest) ∧
      ∀ table ∈ database.tableNames,
        (database.engine.indexes table).names =
            (database.listedIndexes table).map ListedIndex.name ∧
          ((∀ index ∈ database.listedIndexes table,
              database.describeIndex table index.name =
                .ok (index.contents database)) ↔
            ¬ database.HidesIndex table) := by
  refine ⟨exists_load_eq_ok_iff wellFormed accepts, ?_⟩
  intro table listed
  exact ⟨names_listIndexes,
    describeIndex_listed_iff (wellFormed.each table listed)⟩

/-- Users under their row identifier, and their visits under a day and a
number, with an index over an expression. -/
def visitDatabase : Database where
  tableNames := ["user", "visit"]
  columns table :=
    if table = "user" then
      [⟨"id", "INTEGER", false, 1⟩, ⟨"name", "VARCHAR(20)", true, 0⟩]
    else
      [⟨"day", "DATE", true, 1⟩, ⟨"place", "DECIMAL(6, 2)", true, 2⟩,
        ⟨"visitor", "INT", false, 0⟩]
  indexes table :=
    if table = "user" then
      [⟨"by_length", false, "c"⟩, ⟨"by_name", true, "u"⟩]
    else
      [⟨"sqlite_autoindex_visit_1", true, "pk"⟩]
  indexColumns index :=
    if index = "by_length" then [none]
    else if index = "by_name" then [some "name"]
    else [some "day", some "place"]
  foreignKeys table :=
    if table = "visit" then [⟨0, "user", "visitor", none⟩] else []

theorem wellFormed_visits : visitDatabase.WellFormed := by
  decide

/-- Nothing keeps the visits from being loaded. -/
theorem admissible_visits :
    ∀ table ∈ visitDatabase.tableNames, true = true →
      ¬ visitDatabase.HidesIndex table ∧
        ∀ row ∈ visitDatabase.foreignKeys table,
          row.number < 10 ^ Numeral.longest := by
  refine List.forall_mem_cons.2 ⟨?_, List.forall_mem_singleton.2 ?_⟩
  · intro _
    exact ⟨by decide, List.forall_mem_nil _⟩
  · intro _
    refine ⟨by decide, List.forall_mem_singleton.2 ?_⟩
    exact pow_pos (by decide) _

theorem load_wellFormed_visits :
    visitDatabase.WellFormed ∧
      (∃ catalog,
        (Catalog.load visitDatabase.engine fun _ => true).1 = .ok catalog) ∧
      ∀ index ∈ visitDatabase.listedIndexes "user",
        visitDatabase.describeIndex "user" index.name =
          .ok (index.contents visitDatabase) := by
  rcases load_wellFormed wellFormed_visits fun _ => true with
    ⟨loads_iff, described⟩
  refine ⟨wellFormed_visits, loads_iff.2 admissible_visits, ?_⟩
  exact (described "user" (by decide)).2.2 (by decide)

/-- A table under its row identifier, with an index of another column that its
user has called `PRIMARY`. -/
def hiddenIndexDatabase : Database where
  tableNames := ["u"]
  columns _ := [⟨"id", "INTEGER", false, 1⟩, ⟨"x", "", false, 0⟩]
  indexes _ := [⟨"PRIMARY", false, "c"⟩]
  indexColumns _ := [some "x"]
  foreignKeys _ := []

theorem not_load_of_hiddenIndex :
    hiddenIndexDatabase.WellFormed ∧
      (Catalog.load hiddenIndexDatabase.engine fun _ => true).1 =
        .error (.inconsistent (.duplicateIndex "PRIMARY" "u")) ∧
      hiddenIndexDatabase.describeIndex "u" "PRIMARY" =
        .ok ⟨[some (Text.ofString "id")], true, true⟩ :=
  ⟨by decide, rfl, rfl⟩

end AnnotatedSql.Sqlite.Database
