import AnnotatedSql.Schema.Engine
import AnnotatedSql.Sqlite.Database
import AnnotatedSql.Sqlite.DeclaredType

/-!
# SQLite as an engine

How a catalog is read off SQLite's rows.  SQLite has no index for a primary key
that is the row identifier itself, so that key appears as an index of its own,
named `PRIMARY`.  Foreign keys have no names in SQLite; they are named after
their table and number.
-/

namespace AnnotatedSql.Sqlite

open AnnotatedSql.Schema

/-- The name under which the engine is chosen. -/
def engineName : Text := "sqlite"

/-- The name of the index over the row identifier. -/
def rowidIndexName : Text := "PRIMARY"

/-- The name of a foreign key of a table, up to its number. -/
def foreignKeyStem (table : Text) : Text :=
  "fk_" ++ table ++ "_"

/-- The kinds of values that columns are reported to have. -/
def dataTypes : List Text :=
  Affinity.all.map Affinity.name

/-- A code point as it stands in a written identifier. -/
def quotePoint (point : CodePoint) : Text :=
  if point = '"' then "\"\"" else [point]

/-- An identifier as it is written in a statement: between quotation marks, with
those inside written twice. -/
def quote (identifier : Text) : Text :=
  "\"" ++ identifier.flatMap quotePoint ++ "\""

/-- An index as SQLite describes it, expressions included. -/
structure IndexContents where
  columns : List (Option Text)
  isPrimary : Bool
  isUnique : Bool

namespace Database

variable (database : Database)

/-- The columns of a table's primary key. -/
def keyColumns (table : Text) : List ColumnRow :=
  (database.columns table).filter fun row => row.keyPosition != 0

/-- The column of a table that is its row identifier: the only column of a
primary key that has no index, declared as an integer. -/
def rowidColumn? (table : Text) : Option Text :=
  if (database.indexes table).any fun row => row.origin = "pk" then
    none
  else
    match database.keyColumns table with
    | [row] =>
        if row.declaredType.trim.toUpper = "INTEGER" then some row.name
        else none
    | _ => none

/-- A column as the engine reports it.  The row identifier never is null. -/
def describeColumn
    (rowid : Option Text)
    (row : ColumnRow) : Except EngineError ColumnDescriptor := do
  let nullable := !(row.notNull || rowid = some row.name)
  let type ←
    (columnTypeOfDeclared row.declaredType (some nullable)).mapError .numeral
  return ⟨row.name, type⟩

/-- The columns of a table. -/
def describeColumns (table : Text) :
    Except EngineError (List ColumnDescriptor) :=
  (database.columns table).mapM (describeColumn (database.rowidColumn? table))

/-- An index is over an expression somewhere. -/
def isOverExpression (row : IndexRow) : Bool :=
  (database.indexColumns row.name).any Option.isNone

/-- The indexes of a table, that over the row identifier first. -/
def listIndexes (table : Text) : IndexListing where
  names :=
    (if (database.rowidColumn? table).isSome then [rowidIndexName] else []) ++
      ((database.indexes table).filter fun row =>
        !database.isOverExpression row).map IndexRow.name
  overExpressions :=
    ((database.indexes table).filter database.isOverExpression).map
      IndexRow.name

/-- The index of a name.  The index over the row identifier comes before a real
index of its name. -/
def describeIndex (table index : Text) : Except EngineError IndexContents :=
  match
    (if index = rowidIndexName then database.rowidColumn? table else none) with
  | some column => .ok ⟨[some column], true, true⟩
  | none =>
      match (database.indexes table).find? fun row => row.name = index with
      | some row =>
          .ok
            ⟨database.indexColumns row.name, row.origin = "pk", row.isUnique⟩
      | none => .error (.indexNotFound index table)

/-- The numbers of a table's foreign keys, each once, in ascending order. -/
def foreignKeyNumbers (table : Text) : List Int :=
  ((database.foreignKeys table).map ForeignKeyRow.number).eraseDups.mergeSort

/-- The names of a table's foreign keys. -/
def foreignKeyNames (table : Text) : List Text :=
  (database.foreignKeyNumbers table).map fun number =>
    foreignKeyStem table ++ Numeral.ofInt number

/-- Order of key columns by their place in the key, then by name. -/
def keyOrder (first second : ColumnRow) : Bool :=
  if first.keyPosition = second.keyPosition then
    Text.lexLe first.name second.name
  else first.keyPosition ≤ second.keyPosition

/-- The names of the columns of a table's primary key, in key order. -/
def keyColumnNames (table : Text) : List Text :=
  ((database.keyColumns table).mergeSort keyOrder).map ColumnRow.name

/-- The parent columns of the rows of one foreign key.  If one is not named, the
key leads to the primary key of the parent table, provided that the numbers of
columns agree; otherwise a column that is not named has the empty name. -/
def parentColumns
    (parentTable : Text)
    (rows : List ForeignKeyRow) : List Text :=
  let named := rows.map fun row => row.parentColumn.getD []
  if rows.any fun row => row.parentColumn.isNone then
    let key := database.keyColumnNames parentTable
    if key.length = rows.length then key else named
  else
    named

/-- The number in the name of a foreign key of a table. -/
def foreignKeyNumber (table foreignKey : Text) : Except EngineError Nat :=
  match Text.after? (foreignKeyStem table) foreignKey with
  | none => .error (.foreignKeyNotFound foreignKey table)
  | some suffix =>
      if suffix.isEmpty || !suffix.all CodePoint.isDigit then
        .error (.foreignKeyNotFound foreignKey table)
      else
        (Numeral.read suffix).mapError .numeral

/-- The foreign key of a name. -/
def describeForeignKey (table foreignKey : Text) :
    Except EngineError ForeignKeyDescription := do
  let number ← foreignKeyNumber table foreignKey
  match (database.foreignKeys table).filter fun row =>
    row.number = (number : Int) with
  | [] => .error (.foreignKeyNotFound foreignKey table)
  | first :: others =>
      let rows := first :: others
      return {
        columns := rows.map ForeignKeyRow.childColumn
        referencedTable := first.parentTable
        referencedColumns := database.parentColumns first.parentTable rows }

/-- SQLite as an engine.  No listed index is over an expression, so every column
of an index that is asked for here has a name. -/
def engine : Engine where
  tableNames := database.tableNames
  columns := database.describeColumns
  supportsAutoIncrement := true
  autoIncrementColumn := database.rowidColumn?
  indexes := database.listIndexes
  describeIndex table index := do
    let contents ← database.describeIndex table index
    return ⟨contents.columns.map fun column => column.getD [],
      contents.isPrimary, contents.isUnique⟩
  foreignKeyNames := database.foreignKeyNames
  describeForeignKey := database.describeForeignKey
  quote := Sqlite.quote

end Database

/-- The columns of a query's result: SQLite tells their names only. -/
def resultColumns (names : List Text) : List ColumnDescriptor :=
  names.map fun name => ⟨name, .unknown⟩

end AnnotatedSql.Sqlite
