import AnnotatedSql.Markup.Error

/-!
# Character references

A reference spells a code point: `&lt;` and its four companions by name, `&#60;`
by its decimal number, `&#x3C;` by its hexadecimal number.  An ampersand that
begins no reference stands for itself.  Decoding goes through a text once, from
left to right, and never looks again at what it has decoded.
-/

namespace AnnotatedSql.Markup

/-- The characters that have a name of their own. -/
inductive NamedCharacter where
  | lessThan
  | greaterThan
  | ampersand
  | quotationMark
  | apostrophe

namespace NamedCharacter

/-- The name, without the ampersand and the semicolon. -/
def name : NamedCharacter → Text
  | lessThan => "lt"
  | greaterThan => "gt"
  | ampersand => "amp"
  | quotationMark => "quot"
  | apostrophe => "apos"

/-- The character. -/
def character : NamedCharacter → Char
  | lessThan => '<'
  | greaterThan => '>'
  | ampersand => '&'
  | quotationMark => '"'
  | apostrophe => '\''

/-- All of them. -/
def all : List NamedCharacter :=
  [lessThan, greaterThan, ampersand, quotationMark, apostrophe]

end NamedCharacter

/-- A reference as it is spelled. -/
inductive Reference where
  | named (character : NamedCharacter)
  | decimal (digits : Text)
  | hexadecimal (mark : CodePoint) (digits : Text)

namespace Reference

/-- The reference as it stands in a document. -/
def spelling : Reference → Text
  | named character => "&" ++ character.name ++ ";"
  | decimal digits => "&#" ++ digits ++ ";"
  | hexadecimal mark digits => "&#" ++ [mark] ++ digits ++ ";"

/-- The code point that a reference denotes.  A decimal number has to be a
numeral of admissible length, and either number that of a code point. -/
def denoted? : Reference → Option CodePoint
  | named character => some character.character
  | decimal digits =>
      match Numeral.read digits with
      | .ok number => CodePoint.ofNat? number
      | .error _ => none
  | hexadecimal _ digits =>
      CodePoint.ofNat?
        (Numeral.ofDigits 16 (digits.filterMap CodePoint.hexadecimalValue?))

/-- A run of digits of one kind, at least one, closed by a semicolon. -/
def closedDigits?
    (isDigit : CodePoint → Bool)
    (text : Text) : Option (Text × Text) :=
  match text.takeWhile isDigit with
  | [] => none
  | first :: digits =>
      (Text.after? ";" (text.dropWhile isDigit)).map fun rest =>
        (first :: digits, rest)

/-- A numeric reference, given what follows its number sign. -/
def numeric? : Text → Option (Reference × Text)
  | [] => none
  | first :: rest =>
      if first = 'x' ∨ first = 'X' then
        (closedDigits? (fun point => point.hexadecimalValue?.isSome) rest).map
          fun (digits, rest) => (hexadecimal first digits, rest)
      else
        (closedDigits? CodePoint.isAsciiDigit (first :: rest)).map
          fun (digits, rest) => (decimal digits, rest)

/-- The reference that follows an ampersand, and what follows the reference. -/
def afterAmpersand? (text : Text) : Option (Reference × Text) :=
  match Text.after? "#" text with
  | some number => numeric? number
  | none =>
      NamedCharacter.all.findSome? fun character =>
        (Text.after? (character.name ++ ";") text).map fun rest =>
          (named character, rest)

theorem spelling_append_of_closedDigits?
    {isDigit : CodePoint → Bool}
    {text digits rest : Text}
    (found : closedDigits? isDigit text = some (digits, rest)) :
    text = digits ++ ";" ++ rest := by
  unfold closedDigits? at found
  split at found
  · simp at found
  · next first run run_eq =>
    simp only [Option.map_eq_some_iff, Prod.mk.injEq] at found
    obtain ⟨tail, tail_found, rfl, rfl⟩ := found
    rw [← run_eq, List.append_assoc, ← Text.append_of_after? tail_found,
      List.takeWhile_append_dropWhile]

/-- A reference is found only where its spelling stands. -/
theorem spelling_append_of_afterAmpersand?
    {text rest : Text}
    {reference : Reference}
    (found : afterAmpersand? text = some (reference, rest)) :
    CodePoint.scalar '&' :: text = reference.spelling ++ rest := by
  unfold afterAmpersand? at found
  split at found
  · next number number_found =>
    have text_eq := Text.append_of_after? number_found
    unfold numeric? at found
    split at found
    · simp at found
    · next first tail =>
      split at found
      · simp only [Option.map_eq_some_iff, Prod.exists, Prod.mk.injEq] at found
        obtain ⟨digits, rest', digits_found, rfl, rfl⟩ := found
        rw [text_eq, spelling_append_of_closedDigits? digits_found]
        simp [spelling, Text.ofString]
      · simp only [Option.map_eq_some_iff, Prod.exists, Prod.mk.injEq] at found
        obtain ⟨digits, rest', digits_found, rfl, rfl⟩ := found
        rw [text_eq, spelling_append_of_closedDigits? digits_found]
        simp [spelling, Text.ofString]
  · obtain ⟨character, _, character_found⟩ :=
      List.exists_of_findSome?_eq_some found
    simp only [Option.map_eq_some_iff, Prod.mk.injEq] at character_found
    obtain ⟨tail, tail_found, rfl, rfl⟩ := character_found
    rw [Text.append_of_after? tail_found]
    simp [spelling, Text.ofString]

theorem length_lt_of_afterAmpersand?
    {text rest : Text}
    {reference : Reference}
    (found : afterAmpersand? text = some (reference, rest)) :
    rest.length < text.length + 1 := by
  have lengths :=
    congrArg List.length (spelling_append_of_afterAmpersand? found)
  have spelled : 1 < reference.spelling.length := by
    cases reference <;> simp [spelling, Text.ofString]
  simp only [List.length_cons, List.length_append] at lengths
  omega

end Reference

/-- The text that a document's text stands for, with every reference replaced by
its code point.  The first reference that denotes no code point is a fault. -/
def decodeReferences : Text → Except Error Text
  | [] => .ok []
  | first :: text =>
      if first = '&' then
        match _ : Reference.afterAmpersand? text with
        | some (reference, rest) =>
            match reference.denoted? with
            | some point => (decodeReferences rest).map (point :: ·)
            | none => .error (.invalidReference reference.spelling)
        | none => (decodeReferences text).map (first :: ·)
      else
        (decodeReferences text).map (first :: ·)
termination_by text => text.length
decreasing_by
  · exact Reference.length_lt_of_afterAmpersand? (by assumption)
  · exact Nat.lt_succ_self _
  · exact Nat.lt_succ_self _

end AnnotatedSql.Markup
