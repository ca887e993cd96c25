import AnnotatedSql.Dictionary
import AnnotatedSql.Schema.ColumnType
import AnnotatedSql.Schema.Error

/-!
# Tables

A table is built up from its name by adding columns, then indexes, then
foreign keys.  Beside each list of parts it keeps the places of their names,
and whatever is looked up by name is found through its place.

An addition is a call that changes the table.  It checks what it adds against
what the table already holds, and then assigns the lists, the places and the
primary index one after the other.  A call that ends with an inconsistency
leaves a table behind like any other call.  Indexes and foreign keys hold the
columns themselves, looked up by name when they are added.
-/

namespace AnnotatedSql.Schema

/-- A column of a table, with its position from zero. -/
structure Column where
  name : Text
  position : Nat
  type : ColumnType
deriving DecidableEq

/-- An index; its columns are in index order. -/
structure Index where
  name : Text
  columns : List Column
  isPrimary : Bool
  isUnique : Bool
deriving DecidableEq

/-- A foreign key.  The table and columns it references are known by name
only, since they need not be loaded. -/
structure ForeignKey where
  name : Text
  columns : List Column
  referencedTable : Text
  referencedColumns : List Text
deriving DecidableEq

/-- A table with its columns, indexes and foreign keys in the order in which
they were added, each list with the places of its names. -/
structure Table where
  name : Text
  columns : List Column := []
  columnPlaces : Dictionary Nat := []
  autoIncrement : Option Column := none
  indexes : List Index := []
  indexPlaces : Dictionary Nat := []
  primary : Option Index := none
  foreignKeys : List ForeignKey := []
  foreignKeyPlaces : Dictionary Nat := []
deriving DecidableEq

namespace Table

/-! ## Finding parts -/

/-- The column of a name. -/
def columnNamed?
    (table : Table)
    (name : Text) : Option Column :=
  table.columnPlaces.itemNamed? table.columns name

/-- The index of a name. -/
def indexNamed?
    (table : Table)
    (name : Text) : Option Index :=
  table.indexPlaces.itemNamed? table.indexes name

/-- The foreign key of a name. -/
def foreignKeyNamed?
    (table : Table)
    (name : Text) : Option ForeignKey :=
  table.foreignKeyPlaces.itemNamed? table.foreignKeys name

/-- The column at a position. -/
def column
    (table : Table)
    (position : Int) : Except PositionOutOfRange Column :=
  match position with
  | .ofNat place =>
      match table.columns[place]? with
      | some column => .ok column
      | none => .error ⟨position, table.name⟩
  | .negSucc _ => .error ⟨position, table.name⟩

/-- The unique indexes other than the primary one. -/
def uniqueIndexes (table : Table) : List Index :=
  table.indexes.filter fun index => index.isUnique && !index.isPrimary

/-- The column that a part of the table refers to by name. -/
def referredColumn
    (table : Table)
    (referrer : Referrer)
    (name : Text) : Except Inconsistency Column :=
  match table.columnNamed? name with
  | some column => .ok column
  | none => .error (.unknownColumn referrer name table.name)

/-! ## Changing a table -/

/-- A call that changes a table.  It ends with a value or with an
inconsistency, and leaves a table behind in both cases. -/
abbrev Call (Value : Type) : Type :=
  EStateM Inconsistency Table Value

/-- The table that a call makes of another, if it does not fail. -/
def Call.outcome
    {Value : Type}
    (call : Call Value)
    (table : Table) : Except Inconsistency Table :=
  match call.run table with
  | .ok _ changed => .ok changed
  | .error inconsistency _ => .error inconsistency

/-- End with an inconsistency if a condition holds. -/
def refuseIf
    (refused : Bool)
    (inconsistency : Inconsistency) : Call Unit :=
  if refused then throw inconsistency else pure ()

/-- The columns that a part of the table refers to by name, in turn. -/
def referredColumns
    (referrer : Referrer)
    (names : List Text) : Call (List Column) := do
  ofExcept (names.mapM ((← get).referredColumn referrer))

/-- Add a column behind the others. -/
def addColumn (descriptor : ColumnDescriptor) : Call Column := do
  let table ← get
  refuseIf (table.columnPlaces.contains descriptor.name)
    (.duplicateColumn descriptor.name table.name)
  let column : Column :=
    ⟨descriptor.name, table.columns.length, descriptor.type⟩
  modify fun table => { table with columns := table.columns ++ [column] }
  modify fun table =>
    { table with
      columnPlaces := table.columnPlaces.put column.name column.position }
  return column

/-- Set the auto-increment column, if one is reported under a name that is
not empty. -/
def setAutoIncrement (reported : Option Text) : Call Unit :=
  match reported with
  | none | some [] => pure ()
  | some name => do
      let column ← ofExcept ((← get).referredColumn .autoIncrement name)
      modify fun table => { table with autoIncrement := some column }

/-- Make an index that is marked as primary the primary one, unless there is
one already. -/
def setPrimary (index : Index) : Call Unit := do
  if index.isPrimary then
    let table ← get
    match table.primary with
    | some first =>
        throw (.twoPrimaryIndexes table.name first.name index.name)
    | none => set { table with primary := some index }

/-- Add an index behind the others. -/
def addIndex
    (name : Text)
    (columnNames : List Text)
    (isPrimary isUnique : Bool) : Call Index := do
  let table ← get
  refuseIf (table.indexPlaces.contains name)
    (.duplicateIndex name table.name)
  refuseIf columnNames.isEmpty (.indexWithoutColumns name table.name)
  let columns ← referredColumns (.index name) columnNames
  let index : Index := ⟨name, columns, isPrimary, isUnique⟩
  setPrimary index
  modify fun table => { table with indexes := table.indexes ++ [index] }
  modify fun table =>
    { table with
      indexPlaces := table.indexPlaces.put name (table.indexes.length - 1) }
  return index

/-- Add a foreign key behind the others. -/
def addForeignKey
    (name : Text)
    (columnNames : List Text)
    (referencedTable : Text)
    (referencedColumns : List Text) : Call ForeignKey := do
  let table ← get
  refuseIf (table.foreignKeyPlaces.contains name)
    (.duplicateForeignKey name table.name)
  refuseIf (columnNames.length ≠ referencedColumns.length)
    (.unequalColumnCounts name table.name columnNames.length
      referencedColumns.length)
  let columns ← referredColumns (.foreignKey name) columnNames
  let foreignKey : ForeignKey :=
    ⟨name, columns, referencedTable, referencedColumns⟩
  modify fun table =>
    { table with foreignKeys := table.foreignKeys ++ [foreignKey] }
  modify fun table =>
    { table with
      foreignKeyPlaces :=
        table.foreignKeyPlaces.put name (table.foreignKeys.length - 1) }
  return foreignKey

end Table

end AnnotatedSql.Schema
