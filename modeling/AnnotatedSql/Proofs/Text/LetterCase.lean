import AnnotatedSql.Text.Blank
import Mathlib

/-!
# Texts that differ in letter case

Two texts are equal up to case when they become equal in lower case, where
only the ASCII letters have a lower case.  Such texts have the same parts:
whatever the one is joined from, the other is joined from parts equal up to
case, and a part without letters is the same in both.
-/

namespace AnnotatedSql

/-! ## Code points -/

namespace CodePoint

theorem toAsciiLower_of_not_letter
    {point : CodePoint}
    (plain : point.isAsciiLetter = false) :
    point.toAsciiLower = point := by
  cases point with
  | surrogate offset => rfl
  | scalar character =>
      have notUpper :
          ¬ (character.val ≥ 'A'.val ∧ character.val ≤ 'Z'.val) := by
        simp only [isAsciiLetter, Char.isAlpha, Char.isUpper,
          Bool.or_eq_false_iff, decide_eq_false_iff_not] at plain
        exact plain.1
      rw [toAsciiLower, Char.toLower, dif_neg notUpper]

/-- A letter in lower case still is a letter. -/
theorem isAsciiLetter_toAsciiLower
    {point : CodePoint}
    (letter : point.isAsciiLetter = true) :
    point.toAsciiLower.isAsciiLetter = true := by
  cases point with
  | surrogate offset => exact letter
  | scalar character =>
      by_cases upper : character.val ≥ 'A'.val ∧ character.val ≤ 'Z'.val
      · have lower : character.toLower.isLower = true := by
          simp only [Char.toLower, dif_pos upper, Char.isLower,
            ge_iff_le, Bool.and_eq_true, decide_eq_true_eq]
          have bounds := upper
          simp only [ge_iff_le, UInt32.le_iff_toNat_le] at bounds ⊢
          rw [UInt32.toNat_add]
          simp at bounds ⊢
          omega
        simp only [toAsciiLower, isAsciiLetter, Char.isAlpha, lower,
          Bool.or_true]
      · rw [toAsciiLower, Char.toLower, dif_neg upper]
        exact letter

/-- A code point that is no letter has no case variant but itself. -/
theorem eq_of_toAsciiLower_eq
    {point plain : CodePoint}
    (notLetter : plain.isAsciiLetter = false)
    (same : point.toAsciiLower = plain.toAsciiLower) :
    point = plain := by
  rw [toAsciiLower_of_not_letter notLetter] at same
  cases letter : point.isAsciiLetter with
  | false =>
      rw [toAsciiLower_of_not_letter letter] at same
      exact same
  | true =>
      have impossible := isAsciiLetter_toAsciiLower letter
      rw [same, notLetter] at impossible
      exact nomatch impossible

/-- The case variants of a code point are itself and its upper case. -/
theorem eq_or_eq_toAsciiUpper
    {point lower : CodePoint}
    (same : point.toAsciiLower = lower) :
    point = lower ∨ point = lower.toAsciiUpper := by
  subst same
  cases point with
  | surrogate offset => exact .inl rfl
  | scalar character =>
      by_cases upper : character.val ≥ 'A'.val ∧ character.val ≤ 'Z'.val
      · right
        have lower :
            'a'.val ≤ character.val + ('a'.val - 'A'.val) ∧
              character.val + ('a'.val - 'A'.val) ≤ 'z'.val := by
          simp only [ge_iff_le, UInt32.le_iff_toNat_le] at upper ⊢
          rw [UInt32.toNat_add]
          simp at upper ⊢
          omega
        have back :
            character.val + ('a'.val - 'A'.val) + ('A'.val - 'a'.val) =
              character.val := by
          rw [UInt32.add_assoc]
          exact UInt32.add_zero character.val
        simp only [toAsciiLower, toAsciiUpper, scalar.injEq]
        apply Char.ext
        simp only [Char.toLower, dif_pos upper, Char.toUpper, dif_pos lower]
        exact back.symm
      · left
        rw [toAsciiLower, Char.toLower, dif_neg upper]

/-- The upper case of a code point has the same lower case. -/
@[simp]
theorem toAsciiLower_toAsciiUpper (point : CodePoint) :
    point.toAsciiUpper.toAsciiLower = point.toAsciiLower := by
  cases point with
  | surrogate offset => rfl
  | scalar character =>
      by_cases lower : 'a'.val ≤ character.val ∧ character.val ≤ 'z'.val
      · have upper :
            character.val + ('A'.val - 'a'.val) ≥ 'A'.val ∧
              character.val + ('A'.val - 'a'.val) ≤ 'Z'.val := by
          simp only [ge_iff_le, UInt32.le_iff_toNat_le] at lower ⊢
          rw [UInt32.toNat_add]
          simp at lower ⊢
          omega
        have notUpper :
            ¬ (character.val ≥ 'A'.val ∧ character.val ≤ 'Z'.val) := by
          simp only [ge_iff_le, UInt32.le_iff_toNat_le] at lower ⊢
          simp at lower ⊢
          omega
        have back :
            character.val + ('A'.val - 'a'.val) + ('a'.val - 'A'.val) =
              character.val := by
          rw [UInt32.add_assoc]
          exact UInt32.add_zero character.val
        simp only [toAsciiLower, toAsciiUpper, scalar.injEq]
        apply Char.ext
        simp only [Char.toUpper, dif_pos lower, Char.toLower, dif_pos upper,
          dif_neg notUpper]
        exact back
      · rw [toAsciiUpper, Char.toUpper, dif_neg lower]

theorem not_isAsciiLetter_of_isAsciiDigit
    {point : CodePoint}
    (digit : point.isAsciiDigit = true) :
    point.isAsciiLetter = false := by
  cases point with
  | surrogate offset => rfl
  | scalar character =>
      simp only [isAsciiDigit, Char.isDigit, Bool.and_eq_true,
        decide_eq_true_eq, ge_iff_le, UInt32.le_iff_toNat_le] at digit
      simp only [isAsciiLetter, Char.isAlpha, Char.isUpper, Char.isLower,
        Bool.or_eq_false_iff, Bool.and_eq_false_imp, decide_eq_true_eq,
        decide_eq_false_iff_not, ge_iff_le, UInt32.le_iff_toNat_le]
      simp at digit ⊢
      omega

theorem inIntervals_iff
    {intervals : List (Nat × Nat)}
    {number : Nat} :
    inIntervals intervals number = true ↔
      ∃ interval ∈ intervals, interval.1 ≤ number ∧ number ≤ interval.2 := by
  simp [inIntervals]

theorem isBlank_eq_false_of_isAsciiLetter
    {point : CodePoint}
    (letter : point.isAsciiLetter = true) :
    point.isBlank = false := by
  cases point with
  | surrogate offset => cases letter
  | scalar character =>
      simp only [isAsciiLetter, Char.isAlpha, Char.isUpper, Char.isLower,
        Bool.or_eq_true, Bool.and_eq_true, decide_eq_true_eq, ge_iff_le,
        UInt32.le_iff_toNat_le, Char.toNat_val, Char.reduceVal,
        UInt32.reduceToNat] at letter
      rw [Bool.eq_false_iff, ne_eq, isBlank, inIntervals_iff]
      simp only [blankIntervals, toNat, List.mem_cons, List.not_mem_nil,
        exists_eq_or_imp, or_false, exists_eq_left]
      omega

end CodePoint

/-! ## Texts -/

namespace Text

/-- The texts differ at most in the case of ASCII letters. -/
def EqualUpToCase (first second : Text) : Prop :=
  first.map CodePoint.toAsciiLower = second.map CodePoint.toAsciiLower

instance (first second : Text) : Decidable (EqualUpToCase first second) :=
  inferInstanceAs (Decidable (_ = _))

/-- What is equal to two joined texts is joined from two texts itself. -/
theorem EqualUpToCase.exists_append
    {text first second : Text}
    (same : EqualUpToCase text (first ++ second)) :
    ∃ first' second' : Text,
      text = first' ++ second' ∧
        EqualUpToCase first' first ∧ EqualUpToCase second' second := by
  rw [EqualUpToCase, List.map_append] at same
  rcases List.map_eq_append_iff.1 same with
    ⟨first', second', rfl, same_first, same_second⟩
  exact ⟨first', second', rfl, same_first, same_second⟩

/-- What is equal to a text without letters is that text. -/
theorem EqualUpToCase.eq_of_no_letters
    {text plain : Text}
    (same : EqualUpToCase text plain)
    (noLetters : ∀ point ∈ plain, point.isAsciiLetter = false) :
    text = plain := by
  induction plain generalizing text with
  | nil => simpa [EqualUpToCase] using same
  | cons point plain induction_hypothesis =>
      rcases List.map_eq_cons_iff.1 same with
        ⟨point', text', rfl, same_point, same_text⟩
      have point_eq : point' = point :=
        CodePoint.eq_of_toAsciiLower_eq
          (noLetters point (List.mem_cons_self ..)) same_point
      have text_eq : text' = plain :=
        induction_hypothesis same_text
          (fun point member => noLetters point (List.mem_cons_of_mem _ member))
      rw [point_eq, text_eq]

/-- A case variant of a letter is a letter. -/
theorem EqualUpToCase.isAsciiLetter
    {text letters : Text}
    (same : EqualUpToCase text letters)
    (all_letters : ∀ point ∈ letters, point.isAsciiLetter = true) :
    ∀ point ∈ text, point.isAsciiLetter = true := by
  intro point member
  have lower_member : point.toAsciiLower ∈
      letters.map CodePoint.toAsciiLower := by
    rw [← same]
    exact List.mem_map_of_mem member
  rcases List.mem_map.1 lower_member with ⟨letter, letter_member, lower_eq⟩
  have isLetter := all_letters letter letter_member
  by_contra notLetter
  have letter_eq := CodePoint.eq_of_toAsciiLower_eq
    (Bool.eq_false_iff.2 notLetter) lower_eq
  rw [letter_eq] at isLetter
  exact notLetter isLetter

end Text

end AnnotatedSql
