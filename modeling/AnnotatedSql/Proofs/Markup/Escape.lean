import AnnotatedSql.Markup.Reference
import Mathlib

/-!
# Escaping

A text is escaped by writing its ampersands, and one other character that
would end it, by name.  Everything else stands for itself.  Decoding an
escaped text gives the text back, whatever it holds.
-/

namespace AnnotatedSql.Markup

namespace Reference

/-- Behind an ampersand, a name and its semicolon are read as a reference. -/
theorem afterAmpersand?_name
    (character : NamedCharacter)
    (rest : Text) :
    afterAmpersand? (character.name ++ ";" ++ rest) =
      some (.named character, rest) := by
  cases character <;> rfl

@[simp]
theorem spelling_named
    (character : NamedCharacter) :
    (named character).spelling =
      CodePoint.scalar '&' :: (character.name ++ ";") :=
  rfl

end Reference

/-- A character that is written by name is decoded to itself. -/
theorem decodeReferences_spelling
    (character : NamedCharacter)
    (rest : Text) :
    decodeReferences ((Reference.named character).spelling ++ rest) =
      (decodeReferences rest).map (.scalar character.character :: ·) := by
  rw [Reference.spelling_named, List.cons_append, decodeReferences,
    if_pos rfl]
  split
  · next reference rest' found =>
    rw [Reference.afterAmpersand?_name] at found
    cases found
    rfl
  · next notFound =>
    rw [Reference.afterAmpersand?_name] at notFound
    cases notFound

theorem decodeReferences_cons
    {point : CodePoint}
    (notAmpersand : point ≠ '&')
    (rest : Text) :
    decodeReferences (point :: rest) =
      (decodeReferences rest).map (point :: ·) := by
  rw [decodeReferences, if_neg notAmpersand]

/-- A code point as it is written where ampersands and one other character
are written by name. -/
def escapePoint (other : NamedCharacter) (point : CodePoint) : Text :=
  if point = '&' then
    (Reference.named .ampersand).spelling
  else if point = other.character then
    (Reference.named other).spelling
  else
    [point]

/-- A text with ampersands and one other character written by name. -/
def escape (other : NamedCharacter) (value : Text) : Text :=
  value.flatMap (escapePoint other)

variable {other : NamedCharacter}

@[simp]
theorem escape_append (value value' : Text) :
    escape other (value ++ value') =
      escape other value ++ escape other value' :=
  List.flatMap_append

theorem escapePoint_ne_nil (point : CodePoint) :
    escapePoint other point ≠ [] := by
  unfold escapePoint
  split
  · simp
  · split
    · simp
    · simp

theorem escape_ne_nil
    {value : Text}
    (nonempty : value ≠ []) :
    escape other value ≠ [] := by
  cases value with
  | nil => exact absurd rfl nonempty
  | cons point value =>
      intro impossible
      exact escapePoint_ne_nil point (List.append_eq_nil_iff.1 impossible).1

/-- Decoding an escaped text gives the text back. -/
@[simp]
theorem decodeReferences_escape (value : Text) :
    decodeReferences (escape other value) = .ok value := by
  induction value with
  | nil => rw [escape, List.flatMap_nil, decodeReferences]
  | cons point value induction_hypothesis =>
      rw [escape, List.flatMap_cons, escapePoint]
      rw [escape] at induction_hypothesis
      split
      · next isAmpersand =>
        rw [decodeReferences_spelling, induction_hypothesis, isAmpersand]
        rfl
      · next notAmpersand =>
        split
        · next isOther =>
          rw [decodeReferences_spelling, induction_hypothesis, isOther]
          rfl
        · rw [List.singleton_append, decodeReferences_cons notAmpersand,
            induction_hypothesis]
          rfl

/-- The other character does not occur in an escaped text. -/
theorem notMem_escape
    (notAmpersand : other ≠ .ampersand)
    (value : Text) :
    CodePoint.scalar other.character ∉ escape other value := by
  intro occurs
  rcases List.mem_flatMap.1 occurs with ⟨point, _, within⟩
  unfold escapePoint at within
  split at within
  · cases other with
    | ampersand => exact notAmpersand rfl
    | _ => exact absurd within (by decide)
  · split at within
    · cases other with
      | ampersand => exact notAmpersand rfl
      | _ => exact absurd within (by decide)
    · next notOther =>
      exact notOther (List.mem_singleton.1 within).symm

end AnnotatedSql.Markup
