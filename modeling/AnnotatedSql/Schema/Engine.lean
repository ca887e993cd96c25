import AnnotatedSql.Schema.ColumnType
import AnnotatedSql.Schema.Error

/-!
# Engines

An engine is what a database tells about its tables, together with how it writes
identifiers.  A catalog is loaded through this interface alone.
-/

namespace AnnotatedSql.Schema

/-- The names of a table's indexes, and those that are left out because they are
over expressions and not over columns. -/
structure IndexListing where
  names : List Text
  overExpressions : List Text := []

/-- An index as an engine describes it. -/
structure IndexDescription where
  columns : List Text
  isPrimary : Bool
  isUnique : Bool
deriving DecidableEq

/-- A foreign key as an engine describes it. -/
structure ForeignKeyDescription where
  columns : List Text
  referencedTable : Text
  referencedColumns : List Text
deriving DecidableEq

/-- A source of metadata.  The names that a table is asked under are table
names, index names and foreign-key names as the engine lists them. -/
structure Engine where
  tableNames : List Text
  columns : (table : Text) → Except EngineError (List ColumnDescriptor)
  supportsAutoIncrement : Bool
  autoIncrementColumn : (table : Text) → Option Text
  indexes : (table : Text) → IndexListing
  describeIndex : (table index : Text) → Except EngineError IndexDescription
  foreignKeyNames : (table : Text) → List Text
  describeForeignKey :
    (table foreignKey : Text) → Except EngineError ForeignKeyDescription
  quote : (identifier : Text) → Text

/-- What can be asked of an engine. -/
inductive EngineOperation where
  | connect
  | tableNames
  | columns
  | indexes
  | describeIndex
  | foreignKeyNames
  | describeForeignKey
  | autoIncrementColumn
  | quote
  | resultColumns
  | dataTypes
deriving DecidableEq

/-- There is an answer that fits any engine.  It is that a table has no
auto-increment column; everything else is for each engine to say. -/
def EngineOperation.hasDefault : EngineOperation → Bool
  | autoIncrementColumn => true
  | _ => false

end AnnotatedSql.Schema
