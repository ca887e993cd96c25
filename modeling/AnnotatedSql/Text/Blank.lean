import AnnotatedSql.Text.Basic

/-!
# Blank code points and trimming

Space between the parts of a text is any Unicode space, separator or line
boundary.  Trimming removes a maximal run of them from either end.
-/

namespace AnnotatedSql

/-- Intervals of the code points that count as space. -/
def CodePoint.blankIntervals : List (Nat × Nat) :=
  [(0x9, 0xD), (0x1C, 0x20), (0x85, 0x85), (0xA0, 0xA0), (0x1680, 0x1680),
    (0x2000, 0x200A), (0x2028, 0x2029), (0x202F, 0x202F), (0x205F, 0x205F),
    (0x3000, 0x3000)]

/-- Spaces, separators and line boundaries, and the controls that act as one of
these. -/
def CodePoint.isBlank (point : CodePoint) : Bool :=
  CodePoint.inIntervals CodePoint.blankIntervals point.toNat

namespace Text

/-- A text of blank code points only, the empty text among them. -/
def isBlank (text : Text) : Bool :=
  text.all CodePoint.isBlank

/-- The text from its first code point that is not blank. -/
def trimStart (text : Text) : Text :=
  text.dropWhile CodePoint.isBlank

/-- The text up to its last code point that is not blank. -/
def trimEnd : Text → Text
  | [] => []
  | first :: text =>
      match trimEnd text with
      | [] => if first.isBlank then [] else [first]
      | second :: rest => first :: second :: rest

/-- The text without the blanks at either end. -/
def trim (text : Text) : Text :=
  trimEnd (trimStart text)

end Text

end AnnotatedSql
