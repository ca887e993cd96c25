import AnnotatedSql.Schema.Engine

/-!
# Reported schemas

A report writes out everything an engine says about a database.  It serves as an
engine itself: a detail is looked up by name, and the first entry of a name
answers.
-/

namespace AnnotatedSql.Schema

/-- What is reported about one table. -/
structure TableReport where
  name : Text
  columns : List ColumnDescriptor := []
  autoIncrement : Option Text := none
  indexes : List (Text × IndexDescription) := []
  foreignKeys : List (Text × ForeignKeyDescription) := []

/-- What is reported about a database.  Identifiers are written between two
fixed texts. -/
structure Report where
  tables : List TableReport := []
  supportsAutoIncrement : Bool := false
  opening : Text
  closing : Text

namespace Report

/-- The report of a table; of a table without one, nothing is reported. -/
def table
    (report : Report)
    (name : Text) : TableReport :=
  (report.tables.find? fun table => table.name = name).getD { name }

/-- A report as an engine. -/
def engine (report : Report) : Engine where
  tableNames := report.tables.map TableReport.name
  columns table := .ok (report.table table).columns
  supportsAutoIncrement := report.supportsAutoIncrement
  autoIncrementColumn table := (report.table table).autoIncrement
  indexes table := { names := (report.table table).indexes.map Prod.fst }
  describeIndex table index :=
    match (report.table table).indexes.lookup index with
    | some described => .ok described
    | none => .error (.indexNotFound index table)
  foreignKeyNames table := (report.table table).foreignKeys.map Prod.fst
  describeForeignKey table foreignKey :=
    match (report.table table).foreignKeys.lookup foreignKey with
    | some described => .ok described
    | none => .error (.foreignKeyNotFound foreignKey table)
  quote identifier := report.opening ++ identifier ++ report.closing

end Report

end AnnotatedSql.Schema
