import AnnotatedSql.Text.Numeral

/-!
# Sentinel columns

A probe query brackets the columns of each wildcard with two columns of a
recognisable name: the marker token of the statement, the number of the
wildcard, and a letter for begin or end.  Engines may fold the names of columns
to one case, so a sentinel is recognised whatever the case of its letters.
-/

namespace AnnotatedSql.Wildcard

/-- The begin or the end of the wildcard of a number. -/
structure Marker where
  index : Int
  isBegin : Bool
deriving DecidableEq

/-- A token is an ASCII letter followed by ASCII letters and digits; a line feed
may end it. -/
def isMarkerToken : Text → Bool
  | [] => false
  | first :: rest =>
      first.isAsciiLetter &&
        match rest.dropWhile fun point =>
          point.isAsciiLetter || point.isAsciiDigit with
        | [] => true
        | [last] => last = '\n'
        | _ => false

/-- The token that the sentinels of one statement share. -/
structure MarkerToken where
  text : Text
  isToken : isMarkerToken text = true

namespace MarkerToken

/-- A text as a token, if it is one. -/
def ofText? (text : Text) : Option MarkerToken :=
  if isToken : isMarkerToken text = true then some ⟨text, isToken⟩ else none

/-- The name of a sentinel column. -/
def encode
    (token : MarkerToken)
    (marker : Marker) : Text :=
  token.text ++ "_" ++ Numeral.ofInt marker.index ++ "_" ++
    (if marker.isBegin then "b" else "e")

/-- The name of a sentinel column whose number may be of any size.  The numbers
that count the wildcards of a statement are never too long to be written. -/
def write
    (token : MarkerToken)
    (marker : Marker) : Except Numeral.WriteError Text :=
  (Numeral.write marker.index).map fun number =>
    token.text ++ "_" ++ number ++ "_" ++ (if marker.isBegin then "b" else "e")

/-- Letters beyond ASCII that have an ASCII letter as their lower-case or
upper-case form. -/
def caseVariants : List (CodePoint × CodePoint) :=
  [('\u0130', 'i'), ('\u0131', 'i'), ('\u017f', 's'), ('\u212a', 'k')]

/-- The lower-case ASCII letter that a code point stands for when case does not
matter; any other code point stands for itself. -/
def foldCase (point : CodePoint) : CodePoint :=
  (caseVariants.lookup point).getD point.toAsciiLower

/-- What follows a token at the start of a name, whatever the case of its
letters. -/
def afterFolded? : (token name : Text) → Option Text
  | [], name => some name
  | _ :: _, [] => none
  | expected :: token, found :: name =>
      if foldCase expected = foldCase found then afterFolded? token name
      else none

/-- The last part of a sentinel's name: a letter, which a line feed may
follow. -/
def isBeginOfLetter? : Text → Option Bool
  | [] => none
  | letter :: rest =>
      if rest = [] ∨ rest = "\n" then
        if letter = 'b' ∨ letter = 'B' then some true
        else if letter = 'e' ∨ letter = 'E' then some false
        else none
      else
        none

/-- The digits and the kind of a sentinel of the token. -/
def sentinelParts?
    (token : MarkerToken)
    (name : Text) : Option (Text × Bool) := do
  let number ← Text.after? "_" (← afterFolded? token.text name)
  let digits := number.takeWhile CodePoint.isDecimal
  let letter ← Text.after? "_" (number.dropWhile CodePoint.isDecimal)
  let isBegin ← isBeginOfLetter? letter
  if digits.isEmpty then none else some (digits, isBegin)

/-- The marker of a column's name, if the column is a sentinel of the token.  A
sentinel whose number is an overlong numeral is refused. -/
def decode
    (token : MarkerToken)
    (name : Text) : Except Numeral.ReadError (Option Marker) :=
  match token.sentinelParts? name with
  | none => .ok none
  | some (digits, isBegin) =>
      match Numeral.read digits with
      | .ok index => .ok (some ⟨index, isBegin⟩)
      | .error error => .error error

end MarkerToken

end AnnotatedSql.Wildcard
