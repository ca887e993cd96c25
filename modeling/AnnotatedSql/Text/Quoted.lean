import AnnotatedSql.Text.Basic
import AnnotatedSql.Text.Printable

/-!
# Quoted text

How a text is shown inside a message.  It stands between apostrophes, or between
quotation marks if it holds an apostrophe and no quotation mark.  The delimiter
and the backslash are escaped, line feed, carriage return and tab have escapes
of one letter, and any other code point that is not printable is written as
`\x`, `\u` or `\U` and two, four or eight hexadecimal digits.
-/

namespace AnnotatedSql

/-- The lower-case hexadecimal digit of a value below sixteen. -/
def CodePoint.hexadecimalDigit (value : Nat) : CodePoint :=
  scalar (Nat.digitChar value)

namespace Text

/-- The last `width` hexadecimal digits of a number. -/
def hexadecimal : (width number : Nat) → Text
  | 0, _ => []
  | width + 1, number =>
      hexadecimal width (number / 16) ++
        [CodePoint.hexadecimalDigit (number % 16)]

/-- A code point as it stands between two delimiters. -/
def quotedPoint (delimiter point : CodePoint) : Text :=
  if point = delimiter ∨ point = '\\' then ['\\', point]
  else if point = '\n' then "\\n"
  else if point = '\r' then "\\r"
  else if point = '\t' then "\\t"
  else if point.isPrintable then [point]
  else if point.toNat < 0x100 then "\\x" ++ hexadecimal 2 point.toNat
  else if point.toNat < 0x10000 then "\\u" ++ hexadecimal 4 point.toNat
  else "\\U" ++ hexadecimal 8 point.toNat

/-- The delimiter of the quoted form of a text. -/
def delimiter (text : Text) : CodePoint :=
  if CodePoint.scalar '\'' ∈ text ∧ CodePoint.scalar '"' ∉ text then '"'
  else '\''

/-- The quoted form of a text. -/
def quoted (text : Text) : Text :=
  [text.delimiter] ++ text.flatMap (quotedPoint text.delimiter) ++
    [text.delimiter]

end Text

end AnnotatedSql
