import AnnotatedSql.Schema.ColumnType
import AnnotatedSql.Text.Blank
import AnnotatedSql.Text.Numeral
import AnnotatedSql.Text.Uppercase

/-!
# Declared types

A column of a SQLite table is declared with a free text, for example as
`DECIMAL(10, 2)`.  Its affinity is found by looking for words anywhere in the
text.  One or two numbers in parentheses at the end are the arguments of the
type: a length for text and blobs, a precision and a scale for all others.
-/

namespace AnnotatedSql.Sqlite

open AnnotatedSql.Schema

/-- The preferred kind of the values of a column. -/
inductive Affinity where
  | integer
  | text
  | blob
  | real
  | numeric
deriving DecidableEq

namespace Affinity

/-- Every affinity. -/
def all : List Affinity := [integer, text, blob, real, numeric]

/-- The name of an affinity. -/
def name : Affinity → Text
  | .integer => "integer"
  | .text => "text"
  | .blob => "blob"
  | .real => "real"
  | .numeric => "numeric"

/-- The first of these rules decides: a type with `INT` is an integer; one with
`CHAR`, `CLOB` or `TEXT` is text; one with `BLOB`, or without any word, is a
blob; one with `REAL`, `FLOA` or `DOUB` is real; any other is numeric. -/
def ofDeclared (declared : Text) : Affinity :=
  let upper := declared.toUpper
  if Text.occursIn "INT" upper then .integer
  else if Text.occursIn "CHAR" upper || Text.occursIn "CLOB" upper ||
      Text.occursIn "TEXT" upper then
    .text
  else if Text.occursIn "BLOB" upper || upper.isBlank then .blob
  else if Text.occursIn "REAL" upper || Text.occursIn "FLOA" upper ||
      Text.occursIn "DOUB" upper then
    .real
  else .numeric

/-- An argument of the type is the length of the values, and not their
precision. -/
def hasLength : Affinity → Bool
  | .text | .blob => true
  | .integer | .real | .numeric => false

end Affinity

/-- The arguments of a declared type as they are spelled. -/
structure TypeArguments where
  first : Text
  second : Option Text

/-- A declared type cut into its name and its arguments. -/
structure DeclaredType where
  name : Text
  arguments : Option TypeArguments

namespace DeclaredType

/-- A run of decimal digits at the start of a text, at least one, and what
follows it and the space after it. -/
def digitsThenSpace? (text : Text) : Option (Text × Text) :=
  match text.takeWhile CodePoint.isDecimal with
  | [] => none
  | first :: digits =>
      some
        (first :: digits,
          Text.trimStart (text.dropWhile CodePoint.isDecimal))

/-- Nothing but space follows a closing parenthesis. -/
def closes (text : Text) : Bool :=
  (Text.after? ")" text).any Text.isBlank

/-- The arguments at the end of a declared type, given what follows the opening
parenthesis. -/
def arguments? (text : Text) : Option TypeArguments := do
  let (first, afterFirst) ← digitsThenSpace? text.trimStart
  match Text.after? "," afterFirst with
  | some afterComma =>
      let (second, afterSecond) ← digitsThenSpace? afterComma.trimStart
      if closes afterSecond then some ⟨first, some second⟩ else none
  | none => if closes afterFirst then some ⟨first, none⟩ else none

/-- The parts of a declared type.  The arguments start at the first opening
parenthesis; if what stands there is not a list of arguments, the whole text is
the name. -/
def ofText (declared : Text) : DeclaredType :=
  match Text.cutAtFirst? "(" declared with
  | none => ⟨declared.trim, none⟩
  | some (before, inside) =>
      match arguments? inside with
      | some arguments => ⟨before.trim, some arguments⟩
      | none => ⟨declared.trim, none⟩

end DeclaredType

/-- The type of a column that is declared with a text. -/
def columnTypeOfDeclared
    (declared : Text)
    (nullable : Option Bool) : Except Numeral.ReadError ColumnType := do
  let affinity := Affinity.ofDeclared declared
  let parts := DeclaredType.ofText declared
  let plain : ColumnType :=
    { databaseTypeName := parts.name.toUpper, dataType := affinity.name,
      nullable }
  match parts.arguments with
  | none => return plain
  | some arguments =>
      let first ← Numeral.read arguments.first
      let second ← arguments.second.mapM Numeral.read
      if affinity.hasLength then
        return { plain with length := some first }
      else
        return { plain with
          precision := some first, scale := some (second.getD 0) }

end AnnotatedSql.Sqlite
