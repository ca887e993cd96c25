import AnnotatedSql.Text.Basic

/-!
# Column types

What an engine tells about the values of a column.  Everything beyond the two
names may be unknown, and is then absent rather than guessed.
-/

namespace AnnotatedSql.Schema

/-- The type of a table column or of a column of a query's result. -/
structure ColumnType where
  databaseTypeName : Text
  dataType : Text
  nullable : Option Bool := none
  length : Option Int := none
  precision : Option Int := none
  scale : Option Int := none
deriving DecidableEq

namespace ColumnType

/-- The type of a column of which nothing is known. -/
def unknown : ColumnType := { databaseTypeName := [], dataType := [] }

/-- It is known whether the column may hold null. -/
def hasNullable (type : ColumnType) : Bool := type.nullable.isSome

/-- The column has a length. -/
def hasLength (type : ColumnType) : Bool := type.length.isSome

/-- The column has a precision, and with it a scale. -/
def hasPrecisionAndScale (type : ColumnType) : Bool := type.precision.isSome

end ColumnType

/-- A column as an engine reports it. -/
structure ColumnDescriptor where
  name : Text
  type : ColumnType
deriving DecidableEq

end AnnotatedSql.Schema
