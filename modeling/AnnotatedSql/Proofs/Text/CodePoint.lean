import AnnotatedSql.Proofs.Text.Order
import AnnotatedSql.Text.Blank
import AnnotatedSql.Text.Digit

/-!
# Code points and their numbers

Code points are numbered without gaps.  The classes of code points that range
over all scripts are given by numbers, and there are few blank ones, so what
holds of all of these is found by looking at each.
-/

namespace AnnotatedSql.CodePoint

/-! ## Numbers -/

/-- The number of the last code point. -/
def last : Nat := 0x10FFFF

theorem toNat_le_last (point : CodePoint) : point.toNat ≤ last := by
  cases point with
  | scalar character =>
      have valid := character.valid
      simp only [UInt32.isValidChar, Nat.isValidChar] at valid
      simp only [toNat, Char.toNat, last]
      omega
  | surrogate offset =>
      have bound := offset.isLt
      simp only [toNat, last]
      omega

/-- The code points are numbered without gaps up to the last one. -/
@[simp]
theorem ofNat?_eq_none_iff
    {number : Nat} :
    ofNat? number = none ↔ last < number := by
  unfold ofNat?
  split
  · next valid =>
    simp only [Nat.isValidChar] at valid
    simp only [reduceCtorEq, last, false_iff, not_lt]
    omega
  · next notValid =>
    simp only [Nat.isValidChar] at notValid
    split
    · simp only [reduceCtorEq, last, false_iff, not_lt]
      omega
    · simp only [last, true_iff]
      omega

theorem toNat_of_ofNat?
    {number : Nat}
    {point : CodePoint}
    (found : ofNat? number = some point) :
    point.toNat = number := by
  unfold ofNat? at found
  split at found
  · cases found
    rfl
  · split at found
    · next inside =>
      cases found
      exact Nat.add_sub_cancel' inside.1
    · cases found

@[simp]
theorem ofNat?_eq_some_iff
    {number : Nat}
    {point : CodePoint} :
    ofNat? number = some point ↔ number = point.toNat := by
  constructor
  · intro found
    exact (toNat_of_ofNat? found).symm
  · rintro rfl
    cases found : ofNat? point.toNat with
    | some point' => rw [toNat_injective (toNat_of_ofNat? found)]
    | none =>
        exact absurd (ofNat?_eq_none_iff.1 found)
          (Nat.not_lt.2 point.toNat_le_last)

/-! ## Classes -/

/-- All blank code points. -/
def blankPoints : List CodePoint :=
  (blankIntervals.flatMap fun interval =>
    List.range' interval.1 (interval.2 + 1 - interval.1)).filterMap ofNat?

theorem mem_blankPoints_of_isBlank
    {point : CodePoint}
    (blank : point.isBlank = true) :
    point ∈ blankPoints := by
  rw [isBlank, inIntervals, List.any_eq_true] at blank
  rcases blank with ⟨interval, listed, within⟩
  rw [Bool.and_eq_true, decide_eq_true_eq, decide_eq_true_eq] at within
  rw [blankPoints, List.mem_filterMap]
  refine ⟨point.toNat, ?_, ofNat?_eq_some_iff.2 rfl⟩
  rw [List.mem_flatMap]
  refine ⟨interval, listed, ?_⟩
  rw [List.mem_range'_1]
  omega

theorem isDecimal_eq_false_of_isBlank
    {point : CodePoint}
    (blank : point.isBlank = true) :
    point.isDecimal = false := by
  have none_decimal : ∀ point ∈ blankPoints, point.isDecimal = false := by
    decide +kernel
  exact none_decimal point (mem_blankPoints_of_isBlank blank)

theorem isDecimal_of_isAsciiDigit
    {point : CodePoint}
    (digit : point.isAsciiDigit = true) :
    point.isDecimal = true := by
  cases point with
  | surrogate offset => cases digit
  | scalar character =>
      simp only [isAsciiDigit, Char.isDigit, Bool.and_eq_true,
        decide_eq_true_eq, ge_iff_le, UInt32.le_iff_toNat_le] at digit
      rw [isDecimal, decimalValue?, Option.isSome_map, List.find?_isSome]
      refine ⟨0x30, List.mem_cons_self, ?_⟩
      rw [Bool.and_eq_true]
      exact ⟨decide_eq_true digit.1, decide_eq_true (Nat.lt_succ_of_le digit.2)⟩

end AnnotatedSql.CodePoint
