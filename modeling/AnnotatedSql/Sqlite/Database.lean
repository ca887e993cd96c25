import AnnotatedSql.Text.Basic

/-!
# What SQLite tells about a database

The rows that SQLite's table-valued pragma functions answer, in the order in
which they come.
-/

namespace AnnotatedSql.Sqlite

/-- A column of a table.  `keyPosition` is the place of the column in the
primary key, counted from one, and zero for a column outside of it. -/
structure ColumnRow where
  name : Text
  declaredType : Text
  notNull : Bool
  keyPosition : Int

/-- An index of a table.  The origin is `pk` for the index of a primary key. -/
structure IndexRow where
  name : Text
  isUnique : Bool
  origin : Text

/-- One column of a foreign key.  Rows with one number belong to one foreign
key; the parent column is absent if the key is declared without naming parent
columns. -/
structure ForeignKeyRow where
  number : Int
  parentTable : Text
  childColumn : Text
  parentColumn : Option Text

/-- The rows of a database.  A column of an index is absent if the index is over
an expression there. -/
structure Database where
  tableNames : List Text
  columns : (table : Text) → List ColumnRow
  indexes : (table : Text) → List IndexRow
  indexColumns : (index : Text) → List (Option Text)
  foreignKeys : (table : Text) → List ForeignKeyRow

end AnnotatedSql.Sqlite
