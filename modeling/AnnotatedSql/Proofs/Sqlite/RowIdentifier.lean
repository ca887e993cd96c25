import AnnotatedSql.Proofs.Sqlite.Loading
import AnnotatedSql.Proofs.Text.Cutting

/-!
# The row identifier in a loaded catalog

A primary key that is a single integer column without an index is SQLite's
own number for the rows.  The engine is asked about it four times, for the
columns of a table, its auto-increment column, the names of its indexes and
their descriptions, and finds out anew each time.  A loaded table shows one
and the same column in all four places, or no such column in any of them.

There is one exception.  SQLite lets a column have the empty name, and an
auto-increment column of the empty name is taken for a missing one.
-/

namespace AnnotatedSql.Sqlite

open AnnotatedSql.Schema

/-- Whatever is declared as an integer up to case and space has the affinity
of integers. -/
theorem ofDeclared_of_toUpper_trim
    {declared : Text}
    (integer : declared.trim.toUpper = "INTEGER") :
    Affinity.ofDeclared declared = .integer := by
  rcases Text.append_of_trim declared with
    ⟨before, after, _, _, declared_eq⟩
  have upper_eq :
      declared.toUpper =
        before.toUpper ++
          (Text.ofString "INT" ++ (Text.ofString "EGER" ++ after.toUpper)) := by
    conv_lhs => rw [declared_eq]
    rw [Text.toUpper, List.flatMap_append, List.flatMap_append]
    refine congrArg (List.append before.toUpper) ?_
    rw [← List.append_assoc]
    exact congrArg (fun word => word ++ after.toUpper) integer
  have occurs : Text.occursIn "INT" declared.toUpper = true := by
    rw [upper_eq]
    exact Text.occursIn_append ..
  simp only [Affinity.ofDeclared, occurs, if_true]

namespace Database

variable
    {database : Database}
    {table : Table}
    {report : TableReport}
    {accepts : Text → Bool}

/-- The index that is invented for a row identifier, over its column. -/
def rowidIndex (column : Column) : Index :=
  ⟨rowidIndexName, [column], true, true⟩

/--
A column of a loaded table is its row identifier in all places where that
shows.  It never is null and holds integers; it is the auto-increment column,
provided that it has a name; and the first index of the table, which is the
primary one, is over this column alone.
-/
structure KeyedByRowid
    (table : Table)
    (row : ColumnRow)
    (column : Column) : Prop where
  own : column ∈ table.columns
  name : column.name = row.name
  nullable : column.type.nullable = some false
  dataType : column.type.dataType = Affinity.integer.name
  autoIncrement :
    table.autoIncrement = if row.name = [] then none else some column
  firstIndex : table.indexes.head? = some (rowidIndex column)
  primary : table.primary = some (rowidIndex column)

/-! ## Columns -/

/-- A column as an engine would report it. -/
def columnDescriptor (column : Column) : ColumnDescriptor :=
  ⟨column.name, column.type⟩

@[simp]
theorem map_columnDescriptor_numberedFrom
    (first : Nat)
    (descriptors : List ColumnDescriptor) :
    (numberedFrom first descriptors).map columnDescriptor = descriptors := by
  induction descriptors generalizing first with
  | nil => rfl
  | cons descriptor descriptors induction_hypothesis =>
      rw [numberedFrom_cons, List.map_cons, induction_hypothesis]
      rfl

/-- The columns of a loaded table, row by row. -/
theorem forall₂_columns_of_mirrors
    (describes : database.engine.Describes report)
    (mirrors : table.Mirrors report) :
    List.Forall₂
      (fun row column =>
        column.name = row.name ∧
          column.type.nullable =
            some (!(row.notNull ||
              database.rowidColumn? table.name = some row.name)) ∧
          column.type.dataType = (Affinity.ofDeclared row.declaredType).name)
      (database.columns table.name) table.columns := by
  have described := forall₂_of_describeColumns describes.columns
  rw [← map_columnDescriptor_numberedFrom 0 report.columns, ← mirrors.columns,
    ← mirrors.name, List.forall₂_map_right_iff] at described
  exact described

/-- A loaded table has one column of each name. -/
theorem eq_of_name_eq
    (consistent : report.Consistent)
    (mirrors : table.Mirrors report)
    {column other : Column}
    (own : column ∈ table.columns)
    (otherOwn : other ∈ table.columns)
    (same : other.name = column.name) :
    other = column := by
  have distinct : (table.columns.map Column.name).Nodup := by
    rw [mirrors.columnNames_eq]
    exact consistent.distinctColumns
  exact List.inj_on_of_nodup_map distinct otherOwn own same

/-! ## Tables with a row identifier -/

/-- The first index of a table with a row identifier is that over it. -/
theorem head?_indexes_of_rowidColumn?
    (describes : database.engine.Describes report)
    (consistent : report.Consistent)
    (mirrors : table.Mirrors report)
    {column : Column}
    (own : column ∈ table.columns)
    (found : database.rowidColumn? table.name = some column.name) :
    table.indexes.head? = some (rowidIndex column) := by
  rw [mirrors.name] at found
  have names_eq :
      report.indexes.map Prod.fst =
        (database.listedIndexes report.name).map ListedIndex.name := by
    rw [← names_listIndexes]
    exact describes.indexNames.symm
  rw [listedIndexes, found, ← mirrors.indexes] at names_eq
  cases indexes_eq : table.indexes with
  | nil =>
      rw [indexes_eq] at names_eq
      cases names_eq
  | cons index others =>
      rw [indexes_eq] at names_eq
      have name_eq : index.name = rowidIndexName := (List.cons.inj names_eq).1
      have indexOwn : index ∈ table.indexes := by
        rw [indexes_eq]
        exact List.mem_cons_self ..
      have reported : index.described ∈ report.indexes := by
        rw [← mirrors.indexes]
        exact List.mem_map_of_mem indexOwn
      have described := describes.indexes _ reported
      rw [show index.described.1 = rowidIndexName from name_eq,
        describeIndex_engine, describeIndex_of_rowidColumn? found] at described
      rcases IndexDescription.mk.inj (Except.ok.inj described) with
        ⟨columns_eq, primary_eq, unique_eq⟩
      rcases List.map_eq_singleton_iff.1 columns_eq.symm with
        ⟨only, only_eq, same⟩
      have onlyOwn : only ∈ index.columns := by
        rw [only_eq]
        exact List.mem_singleton_self only
      have column_eq : only = column :=
        eq_of_name_eq consistent mirrors own
          (mirrors.ownIndexColumns index indexOwn only onlyOwn) same
      have index_eq : index = rowidIndex column := by
        rcases index with ⟨name, columns, isPrimary, isUnique⟩
        cases name_eq
        cases primary_eq
        cases unique_eq
        cases only_eq
        rw [column_eq]
        rfl
      rw [index_eq]
      rfl

/-- The auto-increment column of a table with a row identifier is that column,
if it has a name. -/
theorem autoIncrement_of_rowidColumn?
    (describes : database.engine.Describes report)
    (consistent : report.Consistent)
    (mirrors : table.Mirrors report)
    {column : Column}
    (own : column ∈ table.columns)
    (found : database.rowidColumn? table.name = some column.name) :
    table.autoIncrement = if column.name = [] then none else some column := by
  have reported : report.autoIncrement = some column.name := by
    rw [describes.autoIncrement, ← mirrors.name]
    exact found
  have name_eq := mirrors.autoIncrement
  rw [TableReport.autoIncrementName, reported] at name_eq
  cases autoIncrement_eq : table.autoIncrement with
  | none =>
      rw [autoIncrement_eq] at name_eq
      split
      · rfl
      · next named =>
        rw [Option.filter_some, List.isEmpty_eq_false_iff.2 named] at name_eq
        cases name_eq
  | some other =>
      rw [autoIncrement_eq, Option.map_some, eq_comm,
        Option.filter_eq_some_iff] at name_eq
      rcases name_eq with ⟨same, otherNamed⟩
      have same : other.name = column.name := (Option.some.inj same).symm
      have named : column.name ≠ [] := by
        intro nameless
        rw [same, nameless] at otherNamed
        cases otherNamed
      have otherOwn := mirrors.ownAutoIncrement other autoIncrement_eq
      rw [if_neg named, eq_of_name_eq consistent mirrors own otherOwn same]

/-- What a loaded table with a row identifier shows of it. -/
theorem exists_keyedByRowid
    (describes : database.engine.Describes report)
    (consistent : report.Consistent)
    (mirrors : table.Mirrors report)
    {row : ColumnRow}
    (isKey : database.IsRowidKey table.name row) :
    ∃ column, KeyedByRowid table row column := by
  have found : database.rowidColumn? table.name = some row.name :=
    rowidColumn?_eq_some_iff.2 ⟨row, isKey, rfl⟩
  rcases Lists.exists_mem_of_forall₂
    (forall₂_columns_of_mirrors describes mirrors) row isKey.mem_columns with
    ⟨column, own, name_eq, nullable_eq, dataType_eq⟩
  have found' : database.rowidColumn? table.name = some column.name := by
    rw [name_eq]
    exact found
  have firstIndex :=
    head?_indexes_of_rowidColumn? describes consistent mirrors own found'
  refine ⟨column, ?_⟩
  exact
    { own
      name := name_eq
      nullable := by simpa [found] using nullable_eq
      dataType := by
        rw [dataType_eq, ofDeclared_of_toUpper_trim isKey.declaredInteger]
      autoIncrement := by
        rw [← name_eq]
        exact autoIncrement_of_rowidColumn? describes consistent mirrors own
          found'
      firstIndex
      primary := by
        rw [mirrors.primary]
        cases indexes_eq : table.indexes with
        | nil =>
            rw [indexes_eq] at firstIndex
            exact nomatch firstIndex
        | cons index others =>
            rw [indexes_eq] at firstIndex
            cases firstIndex
            rfl }

/-! ## Tables without one -/

/-- Without a row identifier, an index is described if it is real. -/
theorem exists_real_of_describeIndex
    {name index : Text}
    (missing : database.rowidColumn? name = none)
    {contents : IndexContents}
    (described : database.describeIndex name index = .ok contents) :
    ∃ row ∈ database.indexes name,
        row.name = index ∧
          contents = (ListedIndex.real row).contents database := by
  have noRowid :
      (if index = rowidIndexName then database.rowidColumn? name else none) =
        none := by
    rw [missing, ite_self]
  rw [describeIndex, noRowid] at described
  split at described
  · next impossible => cases impossible
  · split at described
    · next row found =>
      cases described
      exact ⟨row, List.mem_of_find?_eq_some found,
        by simpa using List.find?_some found, rfl⟩
    · cases described

/-- The primary index of a table without row identifier is an index of the
primary key. -/
theorem primary_of_not_rowidKey
    (describes : database.engine.Describes report)
    (mirrors : table.Mirrors report)
    (missing : database.rowidColumn? table.name = none)
    {primary : Index}
    (primary_eq : table.primary = some primary) :
    primary ∈ table.indexes ∧
      ∃ index ∈ database.indexes table.name,
        index.name = primary.name ∧ index.origin = "pk" ∧
          index.isUnique = primary.isUnique ∧
          primary.columns.map (fun column => some column.name) =
            database.indexColumns index.name := by
  rw [mirrors.primary] at primary_eq
  have own := List.mem_of_find?_eq_some primary_eq
  have isPrimary := List.find?_some primary_eq
  have reported : primary.described ∈ report.indexes := by
    rw [← mirrors.indexes]
    exact List.mem_map_of_mem own
  have listed :
      primary.name ∈
        (database.listedIndexes table.name).map ListedIndex.name := by
    rw [← names_listIndexes, mirrors.name,
      show (database.listIndexes report.name).names = _ from
        describes.indexNames]
    exact List.mem_map_of_mem reported
  have overColumns :
      ∃ row, row.name = primary.name ∧
        database.isOverExpression row = false := by
    rcases List.mem_map.1 listed with ⟨index, listed, name_eq⟩
    rcases mem_listedIndexes_iff.1 listed with
      ⟨column, found, rfl⟩ | ⟨row, _, overColumns, rfl⟩
    · rw [missing] at found
      exact nomatch found
    · exact ⟨row, name_eq, overColumns⟩
  have described := describes.indexes _ reported
  rw [describeIndex_engine, Outcome.map_eq_ok_iff, ← mirrors.name] at described
  rcases described with ⟨contents, described, description_eq⟩
  rcases exists_real_of_describeIndex missing described with
    ⟨row, member, name_eq, rfl⟩
  have name_eq : row.name = primary.name := name_eq
  rcases IndexDescription.mk.inj description_eq with
    ⟨columns_eq, primary_eq, unique_eq⟩
  have overColumns : database.isOverExpression row = false := by
    rcases overColumns with ⟨row', name_eq', overColumns⟩
    rw [isOverExpression, name_eq, ← name_eq']
    exact overColumns
  refine ⟨own, row, member, name_eq, ?_, unique_eq, ?_⟩
  · rw [isPrimary] at primary_eq
    exact of_decide_eq_true primary_eq
  · rw [← columns_description_real overColumns]
    show _ = List.map some (List.map _ _)
    rw [columns_eq, List.map_map]
    rfl

/-- All columns but the row identifier may be null unless they are declared
otherwise. -/
theorem forall₂_nullable_of_mirrors
    (describes : database.engine.Describes report)
    (consistent : report.Consistent)
    (mirrors : table.Mirrors report) :
    List.Forall₂
      (fun row column =>
        column.name = row.name ∧
          (¬ database.IsRowidKey table.name row →
            column.type.nullable = some (!row.notNull)))
      (database.columns table.name) table.columns := by
  have distinct : (database.columnNames table.name).Nodup := by
    rw [mirrors.name, ← map_name_of_describeColumns describes.columns]
    exact consistent.distinctColumns
  have related := (List.forall₂_and_left _ _).2
    ⟨fun row member => member, forall₂_columns_of_mirrors describes mirrors⟩
  refine List.Forall₂.imp ?_ related
  rintro row column ⟨member, name_eq, nullable_eq, _⟩
  refine ⟨name_eq, ?_⟩
  intro notKey
  have notFound : database.rowidColumn? table.name ≠ some row.name := by
    intro found
    rcases rowidColumn?_eq_some_iff.1 found with ⟨key, isKey, same⟩
    rw [List.inj_on_of_nodup_map distinct isKey.mem_columns member same]
      at isKey
    exact notKey isKey
  rw [nullable_eq, decide_eq_false notFound, Bool.or_false]

/-! ## Loaded catalogs -/

/--
In a loaded catalog the row identifier of a table is the same column wherever
it shows.  A table without one has no auto-increment column, and its primary
index, if there is one, is the index of its primary key with the columns of
that index in order.  All columns but the row identifier may be null unless
they are declared otherwise.
-/
theorem rowidKey_of_load
    {catalog : Catalog}
    (loaded : (Catalog.load database.engine accepts).1 = .ok catalog) :
    ∀ table ∈ catalog.tables,
      (∀ row, database.IsRowidKey table.name row →
        ∃ column, KeyedByRowid table row column) ∧
      ((∀ row, ¬ database.IsRowidKey table.name row) →
        table.autoIncrement = none ∧
          ∀ primary, table.primary = some primary →
            primary ∈ table.indexes ∧
              ∃ index ∈ database.indexes table.name,
                index.name = primary.name ∧ index.origin = "pk" ∧
                  index.isUnique = primary.isUnique ∧
                  primary.columns.map (fun column => some column.name) =
                    database.indexColumns index.name) ∧
      List.Forall₂
        (fun row column =>
          column.name = row.name ∧
            (¬ database.IsRowidKey table.name row →
              column.type.nullable = some (!row.notNull)))
        (database.columns table.name) table.columns := by
  intro table member
  rcases Catalog.exists_report_of_mem_load loaded table member with
    ⟨report, describes, consistent, mirrors⟩
  refine ⟨?_, ?_, forall₂_nullable_of_mirrors describes consistent mirrors⟩
  · intro row isKey
    exact exists_keyedByRowid describes consistent mirrors isKey
  · intro noKey
    have missing : database.rowidColumn? table.name = none := by
      rw [Option.eq_none_iff_forall_ne_some]
      intro column found
      rcases rowidColumn?_eq_some_iff.1 found with ⟨row, isKey, _⟩
      exact noKey row isKey
    constructor
    · have reported : report.autoIncrement = none := by
        rw [describes.autoIncrement, ← mirrors.name]
        exact missing
      rw [← Option.map_eq_none_iff, mirrors.autoIncrement,
        TableReport.autoIncrementName, reported]
      rfl
    · intro primary primary_eq
      exact primary_of_not_rowidKey describes mirrors missing primary_eq

theorem rowidKey_of_load_visits :
    ∃ catalog,
      (Catalog.load visitDatabase.engine fun _ => true).1 = .ok catalog ∧
        ∃ user ∈ catalog.tables,
          ∃ column, KeyedByRowid user ⟨"id", "INTEGER", false, 1⟩ column := by
  rcases (exists_load_eq_ok_iff wellFormed_visits fun _ => true).2
    admissible_visits with ⟨catalog, loaded⟩
  have listed : Text.ofString "user" ∈ catalog.tableNames := by
    rw [Catalog.tableNames_of_load loaded]
    decide
  rcases List.mem_map.1 listed with ⟨user, member, name_eq⟩
  refine ⟨catalog, loaded, user, member, ?_⟩
  apply (rowidKey_of_load loaded user member).1
  rw [name_eq]
  exact ⟨by decide, rfl, rfl⟩

/-- A table under a row identifier without a name. -/
def namelessDatabase : Database where
  tableNames := ["t"]
  columns _ := [⟨"", "INTEGER", false, 1⟩, ⟨"x", "", false, 0⟩]
  indexes _ := []
  indexColumns _ := []
  foreignKeys _ := []

theorem autoIncrement_eq_none_of_nameless :
    ∃ catalog,
      (Catalog.load namelessDatabase.engine fun _ => true).1 = .ok catalog ∧
        ∃ table ∈ catalog.tables,
          namelessDatabase.IsRowidKey table.name
              ⟨"", "INTEGER", false, 1⟩ ∧
            table.autoIncrement = none := by
  have wellFormed : namelessDatabase.WellFormed := by decide
  have loads := (exists_load_eq_ok_iff wellFormed fun _ => true).2
    (List.forall_mem_singleton.2 fun _ => ⟨by decide, List.forall_mem_nil _⟩)
  rcases loads with ⟨catalog, loaded⟩
  have listed : Text.ofString "t" ∈ catalog.tableNames := by
    rw [Catalog.tableNames_of_load loaded]
    decide
  rcases List.mem_map.1 listed with ⟨table, member, _⟩
  have isKey :
      namelessDatabase.IsRowidKey table.name ⟨"", "INTEGER", false, 1⟩ :=
    ⟨List.forall_mem_nil _, rfl, rfl⟩
  rcases Catalog.exists_report_of_mem_load loaded table member with
    ⟨report, describes, consistent, mirrors⟩
  rcases exists_keyedByRowid describes consistent mirrors isKey with
    ⟨column, keyed⟩
  exact ⟨catalog, loaded, table, member, isKey, keyed.autoIncrement⟩

end Database

end AnnotatedSql.Sqlite
