import AnnotatedSql.Files.Path
import Mathlib

/-!
# Names without extension

A name is cut at its last dot, so a name that is something followed by a dot
and an extension without dots is cut there again.  What a name has before its
extension can be read off the rest of it, with one exception: a name that is
all extension is left as it is, and so has the rest that another name has,
the one with the same extension twice.
-/

namespace AnnotatedSql.Path

/-- A name is cut at the dot behind which there is no other. -/
theorem cutAtLastDot?_append
    {extension : Text}
    (noDot : CodePoint.scalar '.' ∉ extension)
    (before : Text) :
    cutAtLastDot? (before ++ CodePoint.scalar '.' :: extension) =
      some (before, extension) := by
  have run_eq :
      (before ++ CodePoint.scalar '.' :: extension).reverse.takeWhile
          (· != CodePoint.scalar '.') =
        extension.reverse := by
    rw [List.reverse_append, List.reverse_cons, List.append_assoc,
      List.takeWhile_append_of_pos]
    · simp
    · intro point within
      rw [bne_iff_ne]
      rintro rfl
      exact noDot (List.mem_reverse.1 within)
  rw [cutAtLastDot?]
  simp only [run_eq, List.length_append, List.length_reverse, List.length_cons]
  rw [if_pos (by omega), List.reverse_reverse]
  have before_length :
      before.length + (extension.length + 1) - extension.length - 1 =
        before.length := by
    omega
  rw [before_length, List.take_left]

/-- The stem of a name with an extension is what is before it, if there is
anything. -/
theorem stem_append
    {extension : Text}
    (noDot : CodePoint.scalar '.' ∉ extension)
    (nonempty : extension ≠ [])
    (before : Text) :
    stem (before ++ CodePoint.scalar '.' :: extension) =
      if before = [] then CodePoint.scalar '.' :: extension else before := by
  rw [stem, cutAtLastDot?_append noDot]
  by_cases bare : before = []
  · simp [bare]
  · simp [bare, nonempty]

/-- Names of one extension have different stems, but for the name that is the
extension and the name that is the extension twice. -/
theorem stem_append_eq_iff
    {extension : Text}
    (noDot : CodePoint.scalar '.' ∉ extension)
    (nonempty : extension ≠ [])
    {before before' : Text} :
    stem (before ++ CodePoint.scalar '.' :: extension) =
        stem (before' ++ CodePoint.scalar '.' :: extension) ↔
      before = before' ∨
        before = [] ∧ before' = CodePoint.scalar '.' :: extension ∨
        before' = [] ∧ before = CodePoint.scalar '.' :: extension := by
  rw [stem_append noDot nonempty, stem_append noDot nonempty]
  by_cases bare : before = [] <;> by_cases bare' : before' = []
  · simp [bare, bare']
  · simpa [bare, bare'] using eq_comm
  · simp [bare, bare']
  · simp [bare, bare']

end AnnotatedSql.Path
