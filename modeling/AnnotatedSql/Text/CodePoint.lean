/-!
# Code points

Documents, names and messages are sequences of Unicode code points.  A numeric
character reference may denote any code point up to `U+10FFFF`, and the
surrogates among them are not characters, so the alphabet is `Char` together
with the 2048 surrogates.

This module holds the type, its numbering, and the classes of code points that
only concern the ASCII characters.  The classes that range over all of Unicode
have modules of their own.
-/

namespace AnnotatedSql

/-- A code point is a Unicode character or a surrogate, counted from
`U+D800`. -/
inductive CodePoint where
  | scalar (character : Char)
  | surrogate (offset : Fin 2048)
deriving DecidableEq, Inhabited

namespace CodePoint

instance : Coe Char CodePoint := ⟨scalar⟩

/-- The number of a code point, below `0x110000`. -/
def toNat : CodePoint → Nat
  | scalar character => character.toNat
  | surrogate offset => 0xD800 + offset

/-- The code point of a number, if the number is one of a code point. -/
def ofNat? (number : Nat) : Option CodePoint :=
  if valid : number.isValidChar then
    some (scalar (Char.ofNatAux number valid))
  else if inside : 0xD800 ≤ number ∧ number < 0xE000 then
    some (surrogate ⟨number - 0xD800, by omega⟩)
  else
    none

/-- An ASCII letter of either case. -/
def isAsciiLetter : CodePoint → Bool
  | scalar character => character.isAlpha
  | surrogate _ => false

/-- An ASCII decimal digit. -/
def isAsciiDigit : CodePoint → Bool
  | scalar character => character.isDigit
  | surrogate _ => false

/-- The lower-case form of an ASCII letter; any other code point is left
alone. -/
def toAsciiLower : CodePoint → CodePoint
  | scalar character => scalar character.toLower
  | surrogate offset => surrogate offset

/-- The upper-case form of an ASCII letter; any other code point is left
alone. -/
def toAsciiUpper : CodePoint → CodePoint
  | scalar character => scalar character.toUpper
  | surrogate offset => surrogate offset

/-- The value of a hexadecimal digit of either case. -/
def hexadecimalValue? : CodePoint → Option Nat
  | scalar character =>
      if character.isDigit then some (character.toNat - '0'.toNat)
      else if 'a' ≤ character ∧ character ≤ 'f' then
        some (character.toNat - 'a'.toNat + 10)
      else if 'A' ≤ character ∧ character ≤ 'F' then
        some (character.toNat - 'A'.toNat + 10)
      else none
  | surrogate _ => none

/-- Code points are ordered by number. -/
instance : LE CodePoint := ⟨fun first second => first.toNat ≤ second.toNat⟩

instance (first second : CodePoint) : Decidable (first ≤ second) :=
  inferInstanceAs (Decidable (first.toNat ≤ second.toNat))

/-- The number lies in one of the given intervals, ends included. -/
def inIntervals
    (intervals : List (Nat × Nat))
    (number : Nat) : Bool :=
  intervals.any fun interval => interval.1 ≤ number && number ≤ interval.2

end CodePoint

end AnnotatedSql
