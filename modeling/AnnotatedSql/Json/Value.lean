import AnnotatedSql.Dictionary
import AnnotatedSql.Text.Numeral

/-!
# JSON values

The values that a settings file may hold.  The entries of an object keep their
order, since faults of settings are reported in that order.  A number that is
not an integer is kept as it is spelled.
-/

namespace AnnotatedSql

/-- A JSON value. -/
inductive Json where
  | null
  | bool (value : Bool)
  | integer (value : Int)
  | number (spelling : Text)
  | string (value : Text)
  | array (items : List Json)
  | object (entries : List (Text × Json))
deriving Inhabited

namespace Json

/-- Why a text is not read as JSON. -/
inductive Error where
  | malformed
  | numeral (error : Numeral.ReadError)

/-- The text of a string. -/
def string? : Json → Option Text
  | string value => some value
  | _ => none

/-- The items of an array. -/
def array? : Json → Option (List Json)
  | array items => some items
  | _ => none

/-- The entries of an object. -/
def object? : Json → Option (Dictionary Json)
  | object entries => some entries
  | _ => none

end Json

end AnnotatedSql
