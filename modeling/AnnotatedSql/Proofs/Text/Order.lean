import AnnotatedSql.Text.Basic
import Mathlib

/-!
# The order of texts

Texts are put in order by the numbers of their code points, and a text comes
before all texts that it begins.  This is the lexicographic order of the lists
of numbers, and since no two code points share a number, texts of the same
place in the order are the same.  A list of texts therefore has one sorted
arrangement, whatever the order that it came in.
-/

namespace AnnotatedSql

/-- A surrogate does not have the number of a character, nor of another
surrogate. -/
theorem CodePoint.toNat_injective : Function.Injective CodePoint.toNat := by
  intro point point' same
  cases point with
  | scalar character =>
      cases point' with
      | scalar character' => rw [Char.toNat_inj.1 same]
      | surrogate offset' =>
          have valid := character.valid
          have number_eq : character.toNat = 0xD800 + offset' := same
          have bound := offset'.isLt
          simp only [Char.toNat, UInt32.isValidChar, Nat.isValidChar]
            at valid number_eq
          omega
  | surrogate offset =>
      cases point' with
      | scalar character' =>
          have valid := character'.valid
          have number_eq : 0xD800 + offset = character'.toNat := same
          have bound := offset.isLt
          simp only [Char.toNat, UInt32.isValidChar, Nat.isValidChar]
            at valid number_eq
          omega
      | surrogate offset' =>
          have offset_eq : 0xD800 + offset.val = 0xD800 + offset'.val := same
          rw [Fin.ext (Nat.add_left_cancel offset_eq)]

namespace Text

open scoped List

/-- Texts are ordered like the lists of their numbers. -/
theorem lexLe_iff
    {text text' : Text} :
    lexLe text text' = true ↔
      text.map CodePoint.toNat ≤ text'.map CodePoint.toNat := by
  rw [← not_lt]
  induction text generalizing text' with
  | nil =>
      rw [lexLe]
      exact iff_of_true rfl (List.not_lt_nil _)
  | cons first text induction_hypothesis =>
      cases text' with
      | nil =>
          rw [lexLe]
          exact iff_of_false Bool.false_ne_true
            (not_not_intro (List.nil_lt_cons _ _))
      | cons first' text' =>
          have cons_lt_iff :=
            @List.cons_lt_cons_iff Nat _ first'.toNat first.toNat
              (text'.map CodePoint.toNat) (text.map CodePoint.toNat)
          rw [List.map_cons, List.map_cons, cons_lt_iff, lexLe]
          split_ifs with less greater
          · simp [less.not_gt, less.ne']
          · simp [greater]
          · simp [(Nat.not_lt.1 less).antisymm (Nat.not_lt.1 greater),
              induction_hypothesis]

theorem lexLe_trans
    {first second third : Text}
    (left : lexLe first second = true)
    (right : lexLe second third = true) :
    lexLe first third = true :=
  lexLe_iff.2 ((lexLe_iff.1 left).trans (lexLe_iff.1 right))

theorem lexLe_total (first second : Text) :
    lexLe first second = true ∨ lexLe second first = true := by
  rw [lexLe_iff, lexLe_iff]
  exact le_total _ _

theorem lexLe_antisymm
    {first second : Text}
    (left : lexLe first second = true)
    (right : lexLe second first = true) :
    first = second :=
  List.map_injective_iff.2 CodePoint.toNat_injective
    ((lexLe_iff.1 left).antisymm (lexLe_iff.1 right))

theorem pairwise_mergeSort_lexLe (texts : List Text) :
    (texts.mergeSort lexLe).Pairwise fun first second =>
      lexLe first second = true := by
  apply List.pairwise_mergeSort
  · intro first second third
    exact lexLe_trans
  · intro first second
    exact Bool.or_eq_true_iff.2 (lexLe_total first second)

/-- Sorting does not show in which order the texts came. -/
theorem mergeSort_lexLe_eq_of_perm
    {texts texts' : List Text}
    (rearranged : texts.Perm texts') :
    texts.mergeSort lexLe = texts'.mergeSort lexLe := by
  refine List.Perm.eq_of_pairwise (fun _ _ _ _ => lexLe_antisymm)
    (pairwise_mergeSort_lexLe texts) (pairwise_mergeSort_lexLe texts') ?_
  calc
    texts.mergeSort lexLe ~ texts := List.mergeSort_perm ..
    _ ~ texts' := rearranged
    _ ~ texts'.mergeSort lexLe := (List.mergeSort_perm ..).symm

end Text

end AnnotatedSql
