import AnnotatedSql.Text.Numeral
import Mathlib

/-!
# Reading what is written

A number written in decimal is a nonempty list of ASCII digits, and reading
them gives the number back as long as they are not too many.  A number below
`10 ^ n` has at most `n` digits, so every number below
`10 ^ Numeral.longest` can be read.

The digits of a numeral may come from any script.  A numeral of admissible
length is read as its value in the positional system.

The same numbers can be written, where the size is not bounded beforehand, and
the negative numbers of the same size.
-/

namespace AnnotatedSql.Numeral

/-! ## Digit values -/

/-- The values of the decimal digits of a number, most significant first. -/
def digitValues (number : Nat) : List Nat :=
  if number = 0 then [0] else (Nat.digits 10 number).reverse

theorem digitValues_of_lt
    {number : Nat}
    (small : number < 10) :
    digitValues number = [number] := by
  rw [digitValues]
  split
  · next zero => rw [zero]
  · next positive => rw [Nat.digits_of_lt 10 number positive small]; rfl

/-- A number is written as the ASCII digits of its digit values. -/
theorem ofNat_eq_map_digitValues (number : Nat) :
    ofNat number = (digitValues number).map decimalDigit := by
  induction number using ofNat.induct with
  | case1 number small =>
      rw [ofNat, if_pos small, digitValues_of_lt small]
      rfl
  | case2 number large induction_hypothesis =>
      have positive : number ≠ 0 := by omega
      have quotient_positive : number / 10 ≠ 0 := by omega
      rw [ofNat, if_neg large, induction_hypothesis, digitValues, digitValues,
        if_neg positive, if_neg quotient_positive,
        Nat.digits_eq_cons_digits_div (by decide) positive,
        List.reverse_cons, List.map_append]
      rfl

theorem digitValues_lt_ten
    (number : Nat) :
    ∀ value ∈ digitValues number, value < 10 := by
  rw [digitValues]
  split
  · simp
  · intro value member
    exact Nat.digits_lt_base (by decide) (List.mem_reverse.1 member)

theorem digitValues_ne_nil (number : Nat) : digitValues number ≠ [] := by
  rw [digitValues]
  split
  · simp
  · next positive =>
    simpa [Nat.digits_ne_nil_iff_ne_zero] using positive

/-- The number of a list of digit values is that of the positional system. -/
theorem ofDigits_eq_natOfDigits
    (base : Nat)
    (digits : List Nat) :
    ofDigits base digits = Nat.ofDigits base digits.reverse := by
  induction digits using List.reverseRecOn with
  | nil => rfl
  | append_singleton digits digit induction_hypothesis =>
      rw [ofDigits] at induction_hypothesis ⊢
      rw [List.foldl_append, induction_hypothesis, List.reverse_append,
        List.reverse_singleton, List.singleton_append, Nat.ofDigits_cons]
      simp only [List.foldl_cons, List.foldl_nil]
      ring

@[simp]
theorem ofDigits_digitValues (number : Nat) :
    ofDigits 10 (digitValues number) = number := by
  rw [digitValues]
  split
  · next zero => rw [zero]; rfl
  · rw [ofDigits_eq_natOfDigits, List.reverse_reverse, Nat.ofDigits_digits]

/-- The numbers of at most so many digits are those below a power of ten. -/
theorem length_ofNat_le_iff
    {number width : Nat}
    (positive : 0 < width) :
    (ofNat number).length ≤ width ↔ number < 10 ^ width := by
  rw [ofNat_eq_map_digitValues, List.length_map, digitValues]
  split
  · next zero =>
    rw [zero]
    exact iff_of_true positive (Nat.pow_pos (by decide))
  · rw [List.length_reverse, Nat.digits_length_le_iff (by decide)]

/-! ## Digits -/

@[simp]
theorem decimalValue?_decimalDigit
    {value : Nat}
    (small : value < 10) :
    (decimalDigit value).decimalValue? = some value := by
  have all : ∀ value : Fin 10,
      (decimalDigit value).decimalValue? = some value.val := by
    decide
  exact all ⟨value, small⟩

@[simp]
theorem isAsciiDigit_decimalDigit
    {value : Nat}
    (small : value < 10) :
    (decimalDigit value).isAsciiDigit = true := by
  have all : ∀ value : Fin 10, (decimalDigit value).isAsciiDigit = true := by
    decide
  exact all ⟨value, small⟩

theorem ofNat_ne_nil (number : Nat) : ofNat number ≠ [] := by
  rw [ofNat_eq_map_digitValues]
  simpa using digitValues_ne_nil number

/-- The text of a number is made of ASCII digits. -/
theorem isAsciiDigit_of_mem_ofNat
    {number : Nat}
    {point : CodePoint}
    (member : point ∈ ofNat number) :
    point.isAsciiDigit = true := by
  rw [ofNat_eq_map_digitValues] at member
  rcases List.mem_map.1 member with ⟨value, valueMember, rfl⟩
  exact isAsciiDigit_decimalDigit (digitValues_lt_ten number value valueMember)

theorem isDecimal_of_mem_ofNat
    {number : Nat}
    {point : CodePoint}
    (member : point ∈ ofNat number) :
    point.isDecimal = true := by
  rw [ofNat_eq_map_digitValues] at member
  rcases List.mem_map.1 member with ⟨value, valueMember, rfl⟩
  rw [CodePoint.isDecimal, decimalValue?_decimalDigit
    (digitValues_lt_ten number value valueMember)]
  rfl

/-! ## Reading back -/

@[simp]
theorem mapM_decimalValue?_map
    {values : List Nat}
    (small : ∀ value ∈ values, value < 10) :
    (values.map decimalDigit).mapM CodePoint.decimalValue? = some values := by
  induction values with
  | nil => rfl
  | cons value values induction_hypothesis =>
      have later := induction_hypothesis
        (fun value member => small value (List.mem_cons_of_mem _ member))
      rw [List.map_cons, List.mapM_cons,
        decimalValue?_decimalDigit (small value (List.mem_cons_self ..)),
        later]
      rfl

/-- A bound on a natural number is the same among the integers. -/
theorem natCast_lt_ten_pow_iff
    {number width : Nat} :
    (number : Int) < 10 ^ width ↔ number < 10 ^ width := by
  exact_mod_cast Iff.rfl

/-- Every number of admissible length is read back. -/
@[simp]
theorem read_ofNat
    {number : Nat}
    (bounded : number < 10 ^ longest) :
    read (ofNat number) = .ok number := by
  have allDecimal : (ofNat number).takeWhile CodePoint.isDecimal =
      ofNat number := by
    rw [← List.append_nil (ofNat number), List.takeWhile_append_of_pos
      (fun point member => isDecimal_of_mem_ofNat member)]
    rfl
  have short : ¬ longest < (ofNat number).length :=
    Nat.not_lt.2 ((length_ofNat_le_iff (by decide)).2 bounded)
  have values := mapM_decimalValue?_map (digitValues_lt_ten number)
  rw [← ofNat_eq_map_digitValues] at values
  have nonempty := digitValues_ne_nil number
  have value_eq := ofDigits_digitValues number
  simp only [read, allDecimal, if_neg short, values]
  cases digits_eq : digitValues number with
  | nil => exact absurd digits_eq nonempty
  | cons first digits =>
      rw [digits_eq] at value_eq
      simp only [value_eq]

/-- Different numbers are written differently. -/
theorem ofNat_injective : Function.Injective ofNat := by
  intro number number' same
  have digits_eq : digitValues number = digitValues number' := by
    apply Option.some.inj
    rw [← mapM_decimalValue?_map (digitValues_lt_ten number),
      ← mapM_decimalValue?_map (digitValues_lt_ten number'),
      ← ofNat_eq_map_digitValues, ← ofNat_eq_map_digitValues, same]
  rw [← ofDigits_digitValues number, digits_eq, ofDigits_digitValues]

/-! ## Numbers of any size -/

/-- No natural number is written with a sign. -/
theorem ofNat_ne_sign_cons
    (number : Nat)
    (text : Text) :
    ofNat number ≠ CodePoint.scalar '-' :: text := by
  intro same
  have first : CodePoint.scalar '-' ∈ ofNat number := by
    rw [same]
    exact List.mem_cons_self ..
  exact absurd (isAsciiDigit_of_mem_ofNat first) (by decide)

theorem ofInt_injective : Function.Injective ofInt := by
  intro number number' same
  cases number with
  | ofNat number =>
      cases number' with
      | ofNat number' => rw [ofNat_injective same]
      | negSucc number' => exact absurd same (ofNat_ne_sign_cons number _)
  | negSucc number =>
      cases number' with
      | ofNat number' =>
          exact absurd same.symm (ofNat_ne_sign_cons number' _)
      | negSucc number' =>
          have written := (List.cons.inj same).2
          rw [Nat.succ.inj (ofNat_injective written)]

/-- A number is written in decimal if it is not too long, whatever its sign. -/
theorem write_eq_ok_iff
    {number : Int}
    {text : Text} :
    write number = .ok text ↔
      number.natAbs < 10 ^ longest ∧ text = ofInt number := by
  rw [← length_ofNat_le_iff (by decide : 0 < longest), ← Nat.not_lt, write]
  split
  · next long =>
    exact ⟨nofun, fun short => absurd long short.1⟩
  · next short =>
    constructor
    · rintro ⟨⟩
      exact ⟨short, rfl⟩
    · rintro ⟨_, rfl⟩
      rfl

theorem write_eq_error_iff
    {number : Int}
    {error : WriteError} :
    write number = .error error ↔ 10 ^ longest ≤ number.natAbs := by
  rw [← Nat.not_lt, ← length_ofNat_le_iff (by decide : 0 < longest),
    Nat.not_le, write]
  cases error
  split
  · next long => exact ⟨fun _ => long, fun _ => rfl⟩
  · next short => exact ⟨nofun, fun long => absurd long short⟩

/-! ## Numerals of any script -/

/-- A text is a numeral: one or more decimal digits and nothing else. -/
structure IsNumeral (text : Text) : Prop where
  nonempty : text ≠ []
  decimal : ∀ point ∈ text, point.isDecimal = true

theorem isNumeral_ofNat (number : Nat) : IsNumeral (ofNat number) where
  nonempty := ofNat_ne_nil number
  decimal := fun _ member => isDecimal_of_mem_ofNat member

theorem exists_mapM_decimalValue?
    {text : Text}
    (decimal : ∀ point ∈ text, point.isDecimal = true) :
    ∃ values, text.mapM CodePoint.decimalValue? = some values ∧
      values.length = text.length := by
  induction text with
  | nil => exact ⟨[], rfl, rfl⟩
  | cons point text induction_hypothesis =>
      rw [List.forall_mem_cons] at decimal
      rcases Option.isSome_iff_exists.1 decimal.1 with ⟨value, value_eq⟩
      rcases induction_hypothesis decimal.2 with ⟨values, values_eq, length_eq⟩
      refine ⟨value :: values, ?_, ?_⟩
      · rw [List.mapM_cons, value_eq, values_eq]
        rfl
      · rw [List.length_cons, List.length_cons, length_eq]

theorem IsNumeral.read_of_long
    {text : Text}
    (numeral : IsNumeral text)
    (long : longest < text.length) :
    read text = .error (.tooLong text.length) := by
  have allDecimal : text.takeWhile CodePoint.isDecimal = text :=
    List.takeWhile_eq_self_iff.2 numeral.decimal
  simp only [read, allDecimal, if_pos long]

/-- A numeral is read exactly if it is not too long. -/
theorem IsNumeral.exists_read_eq_ok_iff
    {text : Text}
    (numeral : IsNumeral text) :
    (∃ number, read text = .ok number) ↔ text.length ≤ longest := by
  rw [← Nat.not_lt]
  constructor
  · rintro ⟨number, accepted⟩ long
    rw [numeral.read_of_long long] at accepted
    cases accepted
  · intro short
    have allDecimal : text.takeWhile CodePoint.isDecimal = text :=
      List.takeWhile_eq_self_iff.2 numeral.decimal
    rcases exists_mapM_decimalValue? numeral.decimal with
      ⟨values, values_eq, length_eq⟩
    simp only [read, allDecimal, if_neg short, values_eq]
    cases values with
    | nil =>
        exact absurd (List.length_eq_zero_iff.1 length_eq.symm)
          numeral.nonempty
    | cons first digits => exact ⟨ofDigits 10 (first :: digits), rfl⟩

/-- A numeral is refused only if it is too long. -/
theorem IsNumeral.read_eq_error_iff
    {text : Text}
    {error : ReadError}
    (numeral : IsNumeral text) :
    read text = .error error ↔
      longest < text.length ∧ error = .tooLong text.length := by
  constructor
  · intro refused
    have long : longest < text.length := by
      by_contra short
      rcases numeral.exists_read_eq_ok_iff.2 (Nat.not_lt.1 short) with
        ⟨number, accepted⟩
      rw [refused] at accepted
      cases accepted
    rw [numeral.read_of_long long] at refused
    cases refused
    exact ⟨long, rfl⟩
  · rintro ⟨long, rfl⟩
    exact numeral.read_of_long long

/-- Only the numbers of admissible length are read back. -/
theorem read_ofNat_eq_ok_iff
    {number value : Nat} :
    read (ofNat number) = .ok value ↔
      value = number ∧ number < 10 ^ longest := by
  constructor
  · intro accepted
    have bounded : number < 10 ^ longest :=
      (length_ofNat_le_iff (by decide)).1
        ((isNumeral_ofNat number).exists_read_eq_ok_iff.1 ⟨value, accepted⟩)
    rw [read_ofNat bounded] at accepted
    cases accepted
    exact ⟨rfl, bounded⟩
  · rintro ⟨rfl, bounded⟩
    exact read_ofNat bounded

/-! ## The value of a numeral -/

/-- The number that the decimal digits of a text denote in the positional
system. -/
def value (text : Text) : Nat :=
  Nat.ofDigits 10 (text.filterMap CodePoint.decimalValue?).reverse

theorem filterMap_of_mapM
    {text : Text}
    {values : List Nat}
    (found : text.mapM CodePoint.decimalValue? = some values) :
    text.filterMap CodePoint.decimalValue? = values := by
  induction text generalizing values with
  | nil =>
      cases found
      rfl
  | cons point text induction_hypothesis =>
      simp only [List.mapM_cons, bind, Option.bind_eq_some_iff, pure,
        Option.some.injEq] at found
      rcases found with ⟨value, value_eq, values, values_eq, rfl⟩
      rw [List.filterMap_cons, value_eq, induction_hypothesis values_eq]

/-- A numeral that is read has its value in the positional system. -/
theorem IsNumeral.read_eq_ok_iff
    {text : Text}
    {number : Nat}
    (numeral : IsNumeral text) :
    read text = .ok number ↔
      number = value text ∧ text.length ≤ longest := by
  have read_eq (number : Nat) (accepted : read text = .ok number) :
      number = value text := by
    unfold read at accepted
    simp only at accepted
    split at accepted
    · cases accepted
    · split at accepted
      · next first digits found =>
        cases accepted
        rw [value, filterMap_of_mapM found, ofDigits_eq_natOfDigits]
      · cases accepted
  constructor
  · intro accepted
    exact ⟨read_eq number accepted,
      numeral.exists_read_eq_ok_iff.1 ⟨number, accepted⟩⟩
  · rintro ⟨rfl, short⟩
    rcases numeral.exists_read_eq_ok_iff.2 short with ⟨number, accepted⟩
    rw [accepted, read_eq number accepted]

end AnnotatedSql.Numeral
