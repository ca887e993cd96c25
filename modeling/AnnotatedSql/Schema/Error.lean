import AnnotatedSql.Text.Numeral

/-!
# Faults of schemas

Metadata is refused if it contradicts itself, an engine may fail to describe
what it is asked for, and a look-up in a finished catalog may find nothing.
Each kind of fault has its own type here.
-/

namespace AnnotatedSql.Schema

/-- What may refer to a column of its table. -/
inductive Referrer where
  | autoIncrement
  | index (name : Text)
  | foreignKey (name : Text)
deriving DecidableEq

/-- How a referrer is named in a message. -/
def Referrer.description : Referrer → Text
  | autoIncrement => "Auto increment column"
  | index name => "Index '" ++ name ++ "'"
  | foreignKey name => "Foreign key '" ++ name ++ "'"

/-- How reported metadata contradicts itself. -/
inductive Inconsistency where
  | duplicateTable (table : Text)
  | duplicateColumn (column table : Text)
  | duplicateIndex (index table : Text)
  | duplicateForeignKey (foreignKey table : Text)
  | indexWithoutColumns (index table : Text)
  | twoPrimaryIndexes (table first second : Text)
  | unequalColumnCounts (foreignKey table : Text) (columns referenced : Nat)
  | unknownColumn (referrer : Referrer) (column table : Text)
deriving DecidableEq

/-- The wording of an inconsistency. -/
def Inconsistency.message : Inconsistency → Text
  | duplicateTable table => "Duplicate table '" ++ table ++ "'"
  | duplicateColumn column table =>
      "Duplicate column '" ++ column ++ "' in table '" ++ table ++ "'"
  | duplicateIndex index table =>
      "Duplicate index '" ++ index ++ "' in table '" ++ table ++ "'"
  | duplicateForeignKey foreignKey table =>
      "Duplicate foreign key '" ++ foreignKey ++ "' in table '" ++ table ++ "'"
  | indexWithoutColumns index table =>
      "Index '" ++ index ++ "' in table '" ++ table ++ "' has no columns"
  | twoPrimaryIndexes table first second =>
      "Table '" ++ table ++ "' has two primary indexes: '" ++ first ++
        "' and '" ++ second ++ "'"
  | unequalColumnCounts foreignKey table columns referenced =>
      "Foreign key '" ++ foreignKey ++ "' in table '" ++ table ++ "' has " ++
        Numeral.ofNat columns ++ " columns but " ++ Numeral.ofNat referenced ++
        " referenced columns"
  | unknownColumn referrer column table =>
      referrer.description ++ " refers to column '" ++ column ++
        "' not found in table '" ++ table ++ "'"

/-- Why an engine does not describe what it is asked for. -/
inductive EngineError where
  | indexNotFound (index table : Text)
  | foreignKeyNotFound (foreignKey table : Text)
  | numeral (error : Numeral.ReadError)
deriving DecidableEq

/-- The wording of an engine's failure. -/
def EngineError.message : EngineError → Text
  | indexNotFound index table =>
      "Index '" ++ index ++ "' in table '" ++ table ++ "' not found"
  | foreignKeyNotFound foreignKey table =>
      "Foreign key '" ++ foreignKey ++ "' in table '" ++ table ++ "' not found"
  | numeral error => error.message

/-- Why a schema is not loaded. -/
inductive LoadError where
  | inconsistent (inconsistency : Inconsistency)
  | engine (error : EngineError)
deriving DecidableEq

/-- The wording of a failed load. -/
def LoadError.message : LoadError → Text
  | inconsistent inconsistency => inconsistency.message
  | engine error => error.message

/-- Why a foreign key does not lead to a table or column. -/
inductive UnresolvedReference where
  | missingTable (foreignKey table referenced : Text)
  | missingColumn (foreignKey table column referenced : Text)
deriving DecidableEq

/-- The wording of an unresolved reference. -/
def UnresolvedReference.message : UnresolvedReference → Text
  | missingTable foreignKey table referenced =>
      "Foreign key '" ++ foreignKey ++ "' of table '" ++ table ++
        "' references table '" ++ referenced ++
        "' which is not in the catalog (filtered out?)"
  | missingColumn foreignKey table column referenced =>
      "Foreign key '" ++ foreignKey ++ "' of table '" ++ table ++
        "' references column '" ++ column ++ "' which is not in table '" ++
        referenced ++ "'"

/-- A position at which a table has no column. -/
structure PositionOutOfRange where
  position : Int
  table : Text

/-- The wording of a missing position. -/
def PositionOutOfRange.message (error : PositionOutOfRange) : Text :=
  "Column position " ++ Numeral.ofInt error.position ++
    " out of range for table '" ++ error.table ++ "'"

/-- A name that no table of a catalog has. -/
structure TableNotFound where
  name : Text

/-- The wording of a missing table. -/
def TableNotFound.message (error : TableNotFound) : Text :=
  "Table '" ++ error.name ++ "' not found"

end AnnotatedSql.Schema
