import AnnotatedSql.Schema.Table

/-!
# Result columns

The columns of a SELECT statement's result, each with the table column that it
shows, if that is known.
-/

namespace AnnotatedSql

open AnnotatedSql.Schema

/-- The table column that a result column shows, and the alias under which its
table is read. -/
structure ColumnSource where
  table : Table
  column : Column
  tableAlias : Text
deriving DecidableEq

/-- A result column.  Its type is that of the result, which may admit null where
the source column does not. -/
structure ResultColumn where
  name : Text
  type : ColumnType
  source : Option ColumnSource := none
deriving DecidableEq

end AnnotatedSql
