import AnnotatedSql.Proofs.Outcome
import AnnotatedSql.Proofs.Text.Numeral
import AnnotatedSql.Sqlite.DeclaredType

/-!
# Which declared types are understood

Any text is a declared type.  The one thing that can go wrong is that an
argument of the type is a number with too many digits; everything else that
does not look like a list of arguments is part of the name.
-/

namespace AnnotatedSql.Sqlite

/-- The numerals among the arguments of a type. -/
def TypeArguments.numerals (arguments : TypeArguments) : List Text :=
  arguments.first :: arguments.second.toList

/-- The numerals among the arguments of a declared type. -/
def DeclaredType.numerals (type : DeclaredType) : List Text :=
  (type.arguments.map TypeArguments.numerals).getD []

namespace DeclaredType

theorem isNumeral_of_digitsThenSpace?
    {text digits rest : Text}
    (found : digitsThenSpace? text = some (digits, rest)) :
    Numeral.IsNumeral digits := by
  unfold digitsThenSpace? at found
  split at found
  · exact nomatch found
  · next first others digits_eq =>
    cases found
    rw [← digits_eq]
    refine ⟨?_, fun point => List.mem_takeWhile_imp⟩
    rw [digits_eq]
    exact List.cons_ne_nil _ _

/-- The arguments of a type are numerals. -/
theorem isNumeral_of_arguments?
    {text : Text}
    {arguments : TypeArguments}
    (found : arguments? text = some arguments) :
    ∀ numeral ∈ arguments.numerals, Numeral.IsNumeral numeral := by
  unfold arguments? at found
  simp only [Option.bind_eq_bind, Option.bind_eq_some_iff, Prod.exists] at found
  rcases found with ⟨first, afterFirst, firstFound, found⟩
  have firstNumeral := isNumeral_of_digitsThenSpace? firstFound
  split at found
  · simp only [Option.bind_eq_some_iff, Prod.exists] at found
    rcases found with ⟨second, afterSecond, secondFound, found⟩
    have secondNumeral := isNumeral_of_digitsThenSpace? secondFound
    split at found
    · cases found
      exact List.forall_mem_cons.2 ⟨firstNumeral,
        List.forall_mem_singleton.2 secondNumeral⟩
    · exact nomatch found
  · split at found
    · cases found
      exact List.forall_mem_singleton.2 firstNumeral
    · exact nomatch found

theorem isNumeral_of_mem_numerals
    {declared numeral : Text}
    (member : numeral ∈ (ofText declared).numerals) :
    Numeral.IsNumeral numeral := by
  unfold ofText at member
  split at member
  · exact nomatch member
  · split at member
    · next arguments found =>
      exact isNumeral_of_arguments? found numeral member
    · exact nomatch member

end DeclaredType

/-- The second argument of a type may be missing; it is read if it is there. -/
theorem exists_mapM_read_eq_ok_iff
    (second : Option Text) :
    (∃ number, second.mapM Numeral.read = .ok number) ↔
      ∀ numeral ∈ second.toList,
        ∃ number, Numeral.read numeral = .ok number := by
  cases second with
  | none =>
      constructor
      · intro _
        exact List.forall_mem_nil _
      · intro _
        exact ⟨none, rfl⟩
  | some numeral =>
      rw [Option.toList_some, List.forall_mem_singleton]
      constructor
      · rintro ⟨number, accepted⟩
        rcases Outcome.bind_eq_ok_iff.1 accepted with ⟨value, read_eq, _⟩
        exact ⟨value, read_eq⟩
      · rintro ⟨value, read_eq⟩
        exact ⟨some value, Outcome.bind_eq_ok_iff.2 ⟨value, read_eq, rfl⟩⟩

/--
A declared type is understood exactly if none of its arguments has too many
digits.
-/
theorem exists_columnTypeOfDeclared_eq_ok_iff
    (declared : Text)
    (nullable : Option Bool) :
    (∃ type, columnTypeOfDeclared declared nullable = .ok type) ↔
      ∀ numeral ∈ (DeclaredType.ofText declared).numerals,
        numeral.length ≤ Numeral.longest := by
  have readable_iff :
      ∀ numeral ∈ (DeclaredType.ofText declared).numerals,
        ((∃ number, Numeral.read numeral = .ok number) ↔
          numeral.length ≤ Numeral.longest) :=
    fun numeral member =>
      (DeclaredType.isNumeral_of_mem_numerals member).exists_read_eq_ok_iff
  rw [← forall₂_congr readable_iff]
  cases arguments_eq : (DeclaredType.ofText declared).arguments with
  | none => simp [columnTypeOfDeclared, DeclaredType.numerals, arguments_eq,
      pure, Except.pure]
  | some arguments =>
      simp only [columnTypeOfDeclared, DeclaredType.numerals, arguments_eq,
        Option.map_some, Option.getD_some, TypeArguments.numerals,
        List.forall_mem_cons, ← exists_mapM_read_eq_ok_iff,
        Outcome.bind_eq_ok_iff]
      constructor
      · rintro ⟨type, first, first_eq, second, second_eq, _⟩
        exact ⟨⟨first, first_eq⟩, second, second_eq⟩
      · rintro ⟨⟨first, first_eq⟩, second, second_eq⟩
        by_cases hasLength : (Affinity.ofDeclared declared).hasLength = true
        · exact ⟨_, first, first_eq, second, second_eq, if_pos hasLength⟩
        · exact ⟨_, first, first_eq, second, second_eq, if_neg hasLength⟩

/-- What a declared type is understood as, apart from its arguments. -/
theorem eq_of_columnTypeOfDeclared
    {declared : Text}
    {nullable : Option Bool}
    {type : Schema.ColumnType}
    (understood : columnTypeOfDeclared declared nullable = .ok type) :
    type.nullable = nullable ∧
      type.dataType = (Affinity.ofDeclared declared).name := by
  simp only [columnTypeOfDeclared] at understood
  split at understood
  · cases understood
    exact ⟨rfl, rfl⟩
  · simp only [Outcome.bind_eq_ok_iff] at understood
    rcases understood with ⟨first, _, second, _, understood⟩
    split at understood
    all_goals
      cases understood
      exact ⟨rfl, rfl⟩

end AnnotatedSql.Sqlite
