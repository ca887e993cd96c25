import AnnotatedSql.Text.Digit
import AnnotatedSql.Text.Quoted

/-!
# Numerals

Writing numbers in decimal, and reading decimal numerals whose digits may come
from any script.  A numeral of more than `Numeral.longest` digits, leading zeros
counted, is refused.  A number of any size from outside is written under the
same limit.
-/

namespace AnnotatedSql.Numeral

/-- The ASCII digit of a value below ten. -/
def decimalDigit (value : Nat) : CodePoint :=
  CodePoint.scalar (Char.ofNat ('0'.toNat + value))

/-- A number in decimal, without leading zeros. -/
def ofNat (number : Nat) : Text :=
  if number < 10 then
    [decimalDigit number]
  else
    ofNat (number / 10) ++ [decimalDigit (number % 10)]
termination_by number

/-- A number in decimal, a negative one after a minus sign. -/
def ofInt : Int → Text
  | .ofNat number => ofNat number
  | .negSucc number => CodePoint.scalar '-' :: ofNat (number + 1)

/-- The number that a list of digit values denotes in a base, most significant
first. -/
def ofDigits
    (base : Nat)
    (digits : List Nat) : Nat :=
  digits.foldl (fun number digit => number * base + digit) 0

/-- The greatest number of digits that a numeral may have. -/
def longest : Nat := 4300

/-- Why a text is not read as a numeral. -/
inductive ReadError where
  | tooLong (digits : Nat)
  | malformed (text : Text)
deriving DecidableEq

/-- What is reported for a numeral that is not read.  A long malformed text is
cut after 200 code points of its quoted form. -/
def ReadError.message : ReadError → Text
  | tooLong digits =>
      "Exceeds the limit (" ++ ofNat longest ++
        " digits) for integer string conversion: value has " ++ ofNat digits ++
        " digits; use sys.set_int_max_str_digits() to increase the limit"
  | malformed text =>
      "invalid literal for int() with base 10: " ++ text.quoted.take 200

/-- Why a number is not written. -/
inductive WriteError where
  | tooLong
deriving DecidableEq

/-- What is reported for a number that is not written. -/
def WriteError.message : WriteError → Text
  | tooLong =>
      "Exceeds the limit (" ++ Numeral.ofNat longest ++
        " digits) for integer string conversion; " ++
        "use sys.set_int_max_str_digits() to increase the limit"

/-- A number in decimal, unless it has more digits than a numeral may have.  A
minus sign does not count. -/
def write (number : Int) : Except WriteError Text :=
  if longest < (ofNat number.natAbs).length then .error .tooLong
  else .ok (ofInt number)

/-- The number of a decimal numeral.  A run of decimal digits at its start that
is too long is reported before anything that follows the run. -/
def read (text : Text) : Except ReadError Nat :=
  let leading := (text.takeWhile CodePoint.isDecimal).length
  if longest < leading then
    .error (.tooLong leading)
  else
    match text.mapM CodePoint.decimalValue? with
    | some (first :: digits) => .ok (ofDigits 10 (first :: digits))
    | _ => .error (.malformed text)

end AnnotatedSql.Numeral
