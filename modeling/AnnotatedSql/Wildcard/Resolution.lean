import AnnotatedSql.Schema.Engine
import AnnotatedSql.Statement.ResultColumn
import AnnotatedSql.Wildcard.Marker

/-!
# Wildcards and their columns

A wildcard stands for all columns of a table.  In the probe query its columns
stand between two sentinels; when the result columns are known,
`Resolution.attributed` walks them once, drops the sentinels, and attributes the
columns between them to the columns of the wildcard's table in order.  Sentinels
that do not pair up, or the wrong number of columns between them, are faults.
-/

namespace AnnotatedSql

namespace Wildcard

/-- How result columns violate the sentinel protocol. -/
inductive ProtocolError where
  | nestedBegin (index current : Int)
  | unknownWildcard (name : Text) (index : Int)
  | endWithoutBegin (index : Int)
  | endInside (index current : Int)
  | tooFewColumns (current : Int) (table : Text) (expected found : Nat)
  | tooManyColumns (current : Int) (table : Text) (expected : Nat)
  | missingEnd (current : Int)
deriving DecidableEq

/-- The wording of a violation. -/
def ProtocolError.message : ProtocolError → Text
  | nestedBegin index current =>
      "Begin marker of wildcard #" ++ Numeral.ofInt index ++
        " inside wildcard #" ++ Numeral.ofInt current
  | unknownWildcard name index =>
      "Marker '" ++ name ++ "' refers to unknown wildcard #" ++
        Numeral.ofInt index
  | endWithoutBegin index =>
      "End marker of wildcard #" ++ Numeral.ofInt index ++
        " without a begin marker"
  | endInside index current =>
      "End marker of wildcard #" ++ Numeral.ofInt index ++
        " inside wildcard #" ++ Numeral.ofInt current
  | tooFewColumns current table expected found =>
      "Wildcard #" ++ Numeral.ofInt current ++ " of table '" ++ table ++
        "' expected " ++ Numeral.ofNat expected ++ " columns but got " ++
        Numeral.ofNat found
  | tooManyColumns current table expected =>
      "Wildcard #" ++ Numeral.ofInt current ++ " of table '" ++ table ++
        "' expected " ++ Numeral.ofNat expected ++ " columns but got more"
  | missingEnd current =>
      "Missing end marker of wildcard #" ++ Numeral.ofInt current

/-- Why result columns are not attributed. -/
inductive AttributionError where
  | violation (error : ProtocolError)
  | numeral (error : Numeral.ReadError)
deriving DecidableEq

end Wildcard

/-- All columns of a table, as the wildcard of a number in its statement. -/
structure Wildcard where
  index : Nat
  table : Schema.Table
  tableAlias : Text

namespace Wildcard

/-- What qualifies the columns: the alias, or else the name of the table. -/
def qualifier (wildcard : Wildcard) : Text :=
  if wildcard.tableAlias.isEmpty then wildcard.table.name
  else wildcard.tableAlias

/-- The qualified columns of the table, as an engine writes identifiers. -/
def items
    (quote : Text → Text)
    (wildcard : Wildcard) : List Text :=
  wildcard.table.columns.map fun column =>
    quote wildcard.qualifier ++ "." ++ quote column.name

/-- The columns of the table as they stand in the statement. -/
def expansion
    (quote : Text → Text)
    (wildcard : Wildcard) : Text :=
  List.intercalate ", " (wildcard.items quote)

/-- A sentinel as it stands in the probe query. -/
def sentinel
    (token : MarkerToken)
    (marker : Marker) : Text :=
  "1 AS " ++ token.encode marker

/-- The columns of the table between their sentinels, as they stand in the probe
query. -/
def probe
    (quote : Text → Text)
    (token : MarkerToken)
    (wildcard : Wildcard) : Text :=
  let expansion := wildcard.expansion quote
  List.intercalate ", " <|
    [sentinel token ⟨wildcard.index, true⟩] ++
      (if expansion.isEmpty then [] else [expansion]) ++
      [sentinel token ⟨wildcard.index, false⟩]

/-- The wildcards of a statement, with their token, and whether the result
columns have been attributed to them. -/
structure Resolution where
  token : MarkerToken
  wildcards : List Wildcard := []
  processed : Bool := false

namespace Resolution

/-- Adds a wildcard, whose number is its place among the wildcards of the
statement. -/
def register
    (resolution : Resolution)
    (table : Schema.Table)
    (tableAlias : Text) : Wildcard × Resolution :=
  let wildcard := ⟨resolution.wildcards.length, table, tableAlias⟩
  (wildcard,
    { resolution with wildcards := resolution.wildcards ++ [wildcard] })

/-- The wildcard whose columns are being read, and how many of them have
been. -/
structure Span where
  wildcard : Wildcard
  read : Nat

/-- What a begin sentinel does to the wildcard being read. -/
def openSpan
    (resolution : Resolution)
    (current : Option Span)
    (name : Text)
    (index : Int) : Except ProtocolError Span :=
  match current with
  | some span => .error (.nestedBegin index span.wildcard.index)
  | none =>
      match resolution.wildcards[index.toNat]? with
      | some wildcard => .ok ⟨wildcard, 0⟩
      | none => .error (.unknownWildcard name index)

/-- What an end sentinel requires of the wildcard being read. -/
def closeSpan
    (current : Option Span)
    (index : Int) : Except ProtocolError Unit :=
  match current with
  | none => .error (.endWithoutBegin index)
  | some ⟨wildcard, read⟩ =>
      if index ≠ wildcard.index then
        .error (.endInside index wildcard.index)
      else if read ≠ wildcard.table.columns.length then
        .error
          (.tooFewColumns wildcard.index wildcard.table.name
            wildcard.table.columns.length read)
      else
        .ok ()

/-- An ordinary column inside the wildcard being read, with its source. -/
def attributeColumn
    (span : Span)
    (column : ResultColumn) : Except ProtocolError ResultColumn :=
  match span.wildcard.table.columns[span.read]? with
  | some tableColumn =>
      .ok ⟨column.name, column.type,
        some ⟨span.wildcard.table, tableColumn, span.wildcard.tableAlias⟩⟩
  | none =>
      .error (.tooManyColumns span.wildcard.index span.wildcard.table.name
        span.wildcard.table.columns.length)

/-- The attributed columns of a list, behind what has been read of a
wildcard. -/
def attributeFrom
    (resolution : Resolution)
    (current : Option Span) :
    List ResultColumn → Except AttributionError (List ResultColumn)
  | [] =>
      match current with
      | none => .ok []
      | some span => .error (.violation (.missingEnd span.wildcard.index))
  | column :: columns => do
    match ← (resolution.token.decode column.name).mapError .numeral with
    | some ⟨index, true⟩ =>
        let span ←
          (resolution.openSpan current column.name index).mapError .violation
        resolution.attributeFrom (some span) columns
    | some ⟨index, false⟩ =>
        (closeSpan current index).mapError .violation
        resolution.attributeFrom none columns
    | none =>
        match current with
        | none => return column :: (← resolution.attributeFrom none columns)
        | some span =>
            let attributed ← (attributeColumn span column).mapError .violation
            let rest ←
              resolution.attributeFrom (some ⟨span.wildcard, span.read + 1⟩)
                columns
            return attributed :: rest

/-- The columns of a result without its sentinels, each column of a wildcard
with its source. -/
def attributed
    (resolution : Resolution)
    (columns : List ResultColumn) :
    Except AttributionError (List ResultColumn) :=
  resolution.attributeFrom none columns

/-- Attributes the columns of a result, once: after a success, columns are left
as they are, and a failure leaves everything as it was. -/
def process
    (resolution : Resolution)
    (columns : List ResultColumn) :
    Except AttributionError Unit × List ResultColumn × Resolution :=
  if resolution.processed then
    (.ok (), columns, resolution)
  else
    match resolution.attributed columns with
    | .ok attributed =>
        (.ok (), attributed, { resolution with processed := true })
    | .error error => (.error error, columns, resolution)

end Resolution

end Wildcard

end AnnotatedSql
