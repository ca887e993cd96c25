import AnnotatedSql.Text.CodePoint

/-!
# Text

Text is a list of code points.  A string literal stands for the text of its
characters, so that messages can be written as literals joined with names.

The operations here cut text at a fixed word.  `Text.after?` is the inverse of
putting the word in front: it answers exactly when the text begins with the
word.
-/

namespace AnnotatedSql

/-- A sequence of code points. -/
abbrev Text := List CodePoint

namespace Text

/-- The text of the characters of a string. -/
def ofString (string : String) : Text :=
  string.toList.map CodePoint.scalar

instance : Coe String Text := ⟨ofString⟩

/-- What follows a word at the start of a text. -/
def after? : (word text : Text) → Option Text
  | [], text => some text
  | _ :: _, [] => none
  | expected :: word, found :: text =>
      if expected = found then after? word text else none

/-- The text before and after the first occurrence of a word. -/
def cutAtFirst? (word : Text) : Text → Option (Text × Text)
  | [] => (after? word []).map fun rest => ([], rest)
  | first :: text =>
      match after? word (first :: text) with
      | some rest => some ([], rest)
      | none =>
          (cutAtFirst? word text).map fun (before, rest) =>
            (first :: before, rest)

/-- A word occurs somewhere in a text. -/
def occursIn (word text : Text) : Bool :=
  (cutAtFirst? word text).isSome

/-- The number of line feeds. -/
def lineFeeds (text : Text) : Nat :=
  text.count (CodePoint.scalar '\n')

/-- Every ASCII letter in upper case. -/
def toAsciiUpper (text : Text) : Text :=
  text.map CodePoint.toAsciiUpper

/-- Lexicographic order by code point number. -/
def lexLe : Text → Text → Bool
  | [], _ => true
  | _ :: _, [] => false
  | first :: text, first' :: text' =>
      if first.toNat < first'.toNat then true
      else if first'.toNat < first.toNat then false
      else lexLe text text'

theorem append_of_after?
    {word text rest : Text}
    (found : after? word text = some rest) : text = word ++ rest := by
  induction word generalizing text with
  | nil => simpa [after?] using found
  | cons expected word induction_hypothesis =>
      cases text with
      | nil => simp [after?] at found
      | cons actual text =>
          by_cases same : expected = actual
          · simp only [after?, same, if_true] at found
            simp [same, induction_hypothesis found]
          · simp [after?, same] at found

@[simp]
theorem after?_append (word rest : Text) :
    after? word (word ++ rest) = some rest := by
  induction word with
  | nil => rfl
  | cons expected word induction_hypothesis =>
      simp [after?, induction_hypothesis]

theorem append_of_cutAtFirst?
    {word text before rest : Text}
    (found : cutAtFirst? word text = some (before, rest)) :
    text = before ++ word ++ rest := by
  induction text generalizing before with
  | nil =>
      simp only [cutAtFirst?, Option.map_eq_some_iff] at found
      obtain ⟨tail, tail_found, pair_eq⟩ := found
      obtain ⟨rfl, rfl⟩ := Prod.mk.inj pair_eq
      simpa using append_of_after? tail_found
  | cons first text induction_hypothesis =>
      rw [cutAtFirst?] at found
      split at found
      · next tail tail_found =>
        obtain ⟨rfl, rfl⟩ := Prod.mk.inj (Option.some.inj found)
        simpa using append_of_after? tail_found
      · simp only [Option.map_eq_some_iff, Prod.exists] at found
        obtain ⟨before', rest', inner_found, pair_eq⟩ := found
        obtain ⟨rfl, rfl⟩ := Prod.mk.inj pair_eq
        simp [induction_hypothesis inner_found]

end Text

end AnnotatedSql
