import AnnotatedSql.Proofs.Schema.Lookup
import AnnotatedSql.Proofs.Sqlite.DeclaredType
import AnnotatedSql.Sqlite.Engine

/-!
# What SQLite answers about a table

The columns of a table are described row by row.  Its indexes are listed by
name only, and the names come from two sources: one is invented for the row
identifier, the others are the users'.  A list that remembers for each name
what it was listed for tells whether the description of the name is that of
the right index.
-/

namespace AnnotatedSql.Sqlite

open AnnotatedSql.Schema

/-- An index as a catalog is told of it, with the names of its columns. -/
def IndexContents.description (contents : IndexContents) : IndexDescription :=
  ⟨contents.columns.map fun column => column.getD [], contents.isPrimary,
    contents.isUnique⟩

/-- What a listed name of an index stands for. -/
inductive ListedIndex where
  | overRowid (column : Text)
  | real (row : IndexRow)

namespace Database

variable
    (database : Database)
    (table : Text)

/-- The names of a table's columns. -/
def columnNames : List Text :=
  (database.columns table).map ColumnRow.name

/-- The indexes of a table that are listed, in order. -/
def listedIndexes : List ListedIndex :=
  (database.rowidColumn? table).toList.map .overRowid ++
    ((database.indexes table).filter fun row =>
      !database.isOverExpression row).map .real

/-- A row is the key of the rows of a table: it is the only column of a
primary key that has no index, and is declared as an integer. -/
structure IsRowidKey (row : ColumnRow) : Prop where
  noKeyIndex : ∀ index ∈ database.indexes table, index.origin ≠ "pk"
  onlyKeyColumn : database.keyColumns table = [row]
  declaredInteger : row.declaredType.trim.toUpper = "INTEGER"

end Database

namespace ListedIndex

/-- The name under which an index is listed. -/
def name : ListedIndex → Text
  | overRowid _ => rowidIndexName
  | real row => row.name

/-- What an index is over and whether it is primary and unique. -/
def contents (database : Database) : ListedIndex → IndexContents
  | overRowid column => ⟨[some column], true, true⟩
  | real row =>
      ⟨database.indexColumns row.name, row.origin = "pk", row.isUnique⟩

end ListedIndex

namespace Database

variable
    {database : Database}
    {table : Text}

/-! ## Columns -/

/-- The columns of a table are described exactly if all declared types are
understood. -/
theorem exists_describeColumns_eq_ok_iff :
    (∃ descriptors, database.describeColumns table = .ok descriptors) ↔
      ∀ row ∈ database.columns table,
        ∀ numeral ∈ (DeclaredType.ofText row.declaredType).numerals,
          numeral.length ≤ Numeral.longest := by
  rw [describeColumns, Outcome.exists_mapM_eq_ok_iff]
  refine forall₂_congr fun row member => ?_
  rw [← exists_columnTypeOfDeclared_eq_ok_iff row.declaredType
    (some !(row.notNull || database.rowidColumn? table = some row.name))]
  simp only [describeColumn, Outcome.bind_eq_ok_iff,
    Outcome.mapError_eq_ok_iff]
  constructor
  · rintro ⟨descriptor, type, understood, _⟩
    exact ⟨type, understood⟩
  · rintro ⟨type, understood⟩
    exact ⟨⟨row.name, type⟩, type, understood, rfl⟩

/-- The descriptions of a table's columns, row by row. -/
theorem forall₂_of_describeColumns
    {descriptors : List ColumnDescriptor}
    (described : database.describeColumns table = .ok descriptors) :
    List.Forall₂
      (fun row descriptor =>
        descriptor.name = row.name ∧
          descriptor.type.nullable =
            some (!(row.notNull ||
              database.rowidColumn? table = some row.name)) ∧
          descriptor.type.dataType =
            (Affinity.ofDeclared row.declaredType).name)
      (database.columns table) descriptors := by
  refine List.Forall₂.imp ?_ (Outcome.mapM_eq_ok_iff.1 described)
  intro row descriptor described
  simp only [describeColumn, Outcome.bind_eq_ok_iff,
    Outcome.mapError_eq_ok_iff] at described
  rcases described with ⟨type, understood, described⟩
  cases described
  rcases eq_of_columnTypeOfDeclared understood with ⟨nullable_eq, dataType_eq⟩
  exact ⟨rfl, nullable_eq, dataType_eq⟩

theorem map_name_of_describeColumns
    {descriptors : List ColumnDescriptor}
    (described : database.describeColumns table = .ok descriptors) :
    descriptors.map ColumnDescriptor.name = database.columnNames table := by
  rw [columnNames, ← List.forall₂_eq_eq_eq, List.forall₂_map_left_iff,
    List.forall₂_map_right_iff]
  exact (List.Forall₂.imp (fun _ _ same => same.1)
    (forall₂_of_describeColumns described)).flip

/-! ## The row identifier -/

/-- There is a row identifier exactly if some column is the key of rows. -/
theorem rowidColumn?_eq_some_iff
    {column : Text} :
    database.rowidColumn? table = some column ↔
      ∃ row, database.IsRowidKey table row ∧ row.name = column := by
  unfold rowidColumn?
  by_cases keyIndex :
      ((database.indexes table).any fun row => row.origin = "pk") = true
  · rw [if_pos keyIndex]
    constructor
    · intro found
      exact nomatch found
    · rintro ⟨row, isKey, _⟩
      rcases List.any_eq_true.1 keyIndex with ⟨index, member, origin_eq⟩
      exact absurd (of_decide_eq_true origin_eq) (isKey.noKeyIndex index member)
  · rw [if_neg keyIndex]
    have noKeyIndex :
        ∀ index ∈ database.indexes table, index.origin ≠ "pk" := by
      intro index member origin_eq
      exact keyIndex
        (List.any_eq_true.2 ⟨index, member, decide_eq_true origin_eq⟩)
    constructor
    · intro found
      split at found
      · next row keyColumns_eq =>
        split at found
        · next declaredInteger =>
          exact ⟨row, ⟨noKeyIndex, keyColumns_eq, declaredInteger⟩,
            Option.some.inj found⟩
        · exact nomatch found
      · exact nomatch found
    · rintro ⟨row, isKey, rfl⟩
      rw [isKey.onlyKeyColumn]
      exact if_pos isKey.declaredInteger

theorem IsRowidKey.mem_columns
    {row : ColumnRow}
    (isKey : database.IsRowidKey table row) :
    row ∈ database.columns table := by
  have member : row ∈ database.keyColumns table := by
    rw [isKey.onlyKeyColumn]
    exact List.mem_singleton_self row
  exact List.mem_of_mem_filter member

/-! ## Indexes -/

@[simp]
theorem names_listIndexes :
    (database.listIndexes table).names =
      (database.listedIndexes table).map ListedIndex.name := by
  rw [listIndexes, listedIndexes, List.map_append, List.map_map, List.map_map]
  cases database.rowidColumn? table <;> rfl

theorem describeIndex_engine
    (index : Text) :
    database.engine.describeIndex table index =
      (database.describeIndex table index).map IndexContents.description := by
  rfl

end Database

end AnnotatedSql.Sqlite
