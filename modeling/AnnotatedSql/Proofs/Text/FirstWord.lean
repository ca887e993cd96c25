import AnnotatedSql.Proofs.Text.LetterCase
import AnnotatedSql.Statement.FirstWord

/-!
# The first word of a text

The verb of a SQL text is told by its first word: the letters behind the
space that the text begins with.  The first word is the same after trimming,
and what follows a code point that is neither a letter nor space has no say
in it.
-/

namespace AnnotatedSql

namespace Text

/-! ## Trimming -/

theorem trimStart_cons (point : CodePoint) (text : Text) :
    trimStart (point :: text) =
      if point.isBlank then trimStart text else point :: text := by
  rw [trimStart, List.dropWhile_cons]
  rfl

theorem trimEnd_cons_of_not_blank
    {point : CodePoint}
    (visible : point.isBlank = false)
    (text : Text) :
    trimEnd (point :: text) = point :: trimEnd text := by
  rw [trimEnd]
  split <;> next others => simp [visible, others]

/-- It does not matter which end is trimmed first. -/
theorem trimStart_trimEnd (text : Text) :
    trimStart (trimEnd text) = trimEnd (trimStart text) := by
  induction text with
  | nil => rfl
  | cons point text induction_hypothesis =>
      cases blank : point.isBlank with
      | true =>
          rw [trimStart_cons, if_pos blank, ← induction_hypothesis, trimEnd]
          split
          · next nothing => rw [if_pos blank, nothing]
          · next some => rw [trimStart_cons, if_pos blank, some]
      | false =>
          rw [trimStart_cons, blank, trimEnd_cons_of_not_blank blank,
            trimStart_cons, blank]
          exact (trimEnd_cons_of_not_blank blank text).symm

/-- Nothing is left to trim at the start of a trimmed text. -/
@[simp]
theorem trimStart_trim (text : Text) : text.trim.trimStart = text.trim := by
  rw [trim, trimStart_trimEnd, trimStart, trimStart, List.dropWhile_idempotent]

theorem isBlank_append
    {text text' : Text}
    (blank : text.isBlank = true)
    (blank' : text'.isBlank = true) :
    Text.isBlank (text ++ text') = true := by
  rw [isBlank, List.all_append, Bool.and_eq_true]
  exact ⟨blank, blank'⟩

theorem trimEnd_append_of_blank
    {gap : Text}
    (gap_blank : gap.isBlank = true)
    (text : Text) :
    (text ++ gap).trimEnd = text.trimEnd := by
  have nothing {gap : Text} (gap_blank : gap.isBlank = true) :
      gap.trimEnd = [] := by
    induction gap with
    | nil => rfl
    | cons point gap induction_hypothesis =>
        rw [isBlank, List.all_cons, Bool.and_eq_true] at gap_blank
        rw [trimEnd, induction_hypothesis gap_blank.2, if_pos gap_blank.1]
  induction text with
  | nil => exact nothing gap_blank
  | cons point text induction_hypothesis =>
      rw [List.cons_append, trimEnd, induction_hypothesis, trimEnd]

/-- Blanks at either end have no say in what is left after trimming. -/
theorem trim_between_blanks
    {lead gap : Text}
    (lead_blank : lead.isBlank = true)
    (gap_blank : gap.isBlank = true)
    (text : Text) :
    (lead ++ (text ++ gap)).trim = text.trim := by
  rw [isBlank, List.all_eq_true] at lead_blank
  rw [trim, trimStart, List.dropWhile_append_of_pos lead_blank]
  calc
    (text ++ gap).trimStart.trimEnd = (text ++ gap).trimEnd.trimStart :=
      (trimStart_trimEnd _).symm
    _ = text.trimEnd.trimStart := by
      rw [trimEnd_append_of_blank gap_blank]
    _ = text.trim := trimStart_trimEnd _

/-- The letters that a text begins with do not end it with space. -/
@[simp]
theorem takeWhile_isAsciiLetter_trimEnd (text : Text) :
    (trimEnd text).takeWhile CodePoint.isAsciiLetter =
      text.takeWhile CodePoint.isAsciiLetter := by
  induction text with
  | nil => rfl
  | cons point text induction_hypothesis =>
      cases letter : point.isAsciiLetter with
      | true =>
          have visible := CodePoint.isBlank_eq_false_of_isAsciiLetter letter
          rw [trimEnd_cons_of_not_blank visible, List.takeWhile_cons,
            List.takeWhile_cons, induction_hypothesis]
      | false =>
          rw [List.takeWhile_cons_of_neg (by simp [letter]), trimEnd]
          split
          · cases point.isBlank <;> simp [letter]
          · simp [letter]

/-! ## The first word -/

/-- The letters that a text begins with, behind space. -/
def firstWord (text : Text) : Text :=
  text.trimStart.takeWhile CodePoint.isAsciiLetter

@[simp]
theorem firstWord_trim (text : Text) :
    text.trim.firstWord = text.firstWord := by
  rw [firstWord, trim, trimStart_trimEnd, takeWhile_isAsciiLetter_trimEnd,
    trimStart, trimStart, List.dropWhile_idempotent]
  rfl

/-- What follows a mark has no say in the first word. -/
theorem firstWord_append_mark
    {mark : CodePoint}
    (visible : mark.isBlank = false)
    (noLetter : mark.isAsciiLetter = false)
    (before after : Text) :
    (before ++ mark :: after).firstWord = before.firstWord := by
  rw [firstWord, firstWord, trimStart, trimStart, List.dropWhile_append]
  split
  · next allBlank =>
    rw [List.isEmpty_iff.1 allBlank, List.dropWhile_cons, visible]
    simp [noLetter]
  · rw [List.takeWhile_append]
    split_ifs with allLetters
    · rw [List.takeWhile_cons_of_neg (by simp [noLetter]), List.append_nil]
      exact ((List.takeWhile_prefix _).eq_of_length allLetters).symm
    · rfl

end Text

/-- Texts with the same first word have the same verb, if they have any. -/
theorem Verb.ofText_eq_ok_congr
    {text text' : Text}
    (same : text.firstWord = text'.firstWord)
    (verb : Verb) :
    Verb.ofText text = .ok verb ↔ Verb.ofText text' = .ok verb := by
  rw [Text.firstWord, Text.firstWord] at same
  rw [Verb.ofText, Verb.ofText, same]
  split
  · simp
  · rfl

end AnnotatedSql
