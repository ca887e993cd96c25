import AnnotatedSql.Text.Numeral

/-!
# Events

What the library reports while it works: each event has a level and a message.
-/

namespace AnnotatedSql

/-- How important an event is. -/
inductive Level where
  | debug
  | info
  | warning
deriving DecidableEq

/-- Something worth reporting. -/
inductive Event where
  | connecting (engine dsn : Text)
  | skippedTable (table : Text)
  | skippedExpressionIndex (index table : Text)
  | loadedTable (table : Text) (columns indexes foreignKeys : Nat)
  | loadedCatalog (tables : Nat)
  | opened (engine dsn : Text)
  | probing (statement query : Text)
  | noResultColumns (statement : Text)
  | compiledStatement (statement verb : Text)
  | compiledFile (statements : Nat) (path : Text)
deriving DecidableEq

namespace Event

/-- The level of an event. -/
def level : Event → Level
  | loadedCatalog .. | opened .. | compiledFile .. => .info
  | noResultColumns .. => .warning
  | _ => .debug

/-- The message of an event. -/
def message : Event → Text
  | connecting engine dsn => "Connecting to " ++ engine ++ " database " ++ dsn
  | skippedTable table => "Skipping table " ++ table
  | skippedExpressionIndex index table =>
      "Skipping expression index " ++ index ++ " on " ++ table
  | loadedTable table columns indexes foreignKeys =>
      "Loaded table " ++ table ++ ": " ++ Numeral.ofNat columns ++
        " columns, " ++ Numeral.ofNat indexes ++ " indexes, " ++
        Numeral.ofNat foreignKeys ++ " foreign keys"
  | loadedCatalog tables => "Loaded " ++ Numeral.ofNat tables ++ " tables"
  | opened engine dsn => "Opened " ++ engine ++ " database " ++ dsn
  | probing statement query =>
      "Probing statement " ++ statement ++ ": " ++ query
  | noResultColumns statement =>
      "Statement " ++ statement ++ " has no result columns"
  | compiledStatement statement verb =>
      "Compiled statement " ++ statement ++ " (" ++ verb ++ ")"
  | compiledFile statements path =>
      "Compiled " ++ Numeral.ofNat statements ++ " statements from " ++ path

end Event

end AnnotatedSql
