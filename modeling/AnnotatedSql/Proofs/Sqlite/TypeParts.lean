import AnnotatedSql.Proofs.Sqlite.DeclaredType
import AnnotatedSql.Proofs.Text.CodePoint
import AnnotatedSql.Proofs.Text.Cutting
import AnnotatedSql.Proofs.Text.FirstWord

/-!
# The parts of a declared type

A declared type is laid out as a name and, at most, a list of one or two
numbers in parentheses, with blanks between all of these.  A text may be laid
out in several ways, since a name may begin and end with blanks.  The first
layout, with as many blanks as possible in front of the name and a name that
is as short as possible behind them, has the trimmed name.  All layouts have
the same numbers, which stand behind the first opening parenthesis.  A text
that cannot be laid out is a name as a whole.
-/

namespace AnnotatedSql.Sqlite

/-! ## How arguments are spelled -/

/-- A numeral with blanks around it. -/
def SpellsNumeral (source digits : Text) : Prop :=
  Numeral.IsNumeral digits ∧
    ∃ before after : Text,
      before.isBlank = true ∧ after.isBlank = true ∧
        source = before ++ (digits ++ after)

/-- The arguments of a type as they stand at its end: one or two numerals in
parentheses, with blanks everywhere around them. -/
inductive SpellsArguments : Text → TypeArguments → Prop where
  | one
      {source first trail : Text}
      (first_spelled : SpellsNumeral source first)
      (trail_blank : trail.isBlank = true) :
      SpellsArguments ("(" ++ (source ++ (")" ++ trail))) ⟨first, none⟩
  | two
      {source first source' second trail : Text}
      (first_spelled : SpellsNumeral source first)
      (second_spelled : SpellsNumeral source' second)
      (trail_blank : trail.isBlank = true) :
      SpellsArguments
        ("(" ++ (source ++ ("," ++ (source' ++ (")" ++ trail)))))
        ⟨first, some second⟩

namespace SpellsArguments

variable
    {part : Text}
    {arguments : TypeArguments}

theorem exists_eq_cons
    (spelled : SpellsArguments part arguments) :
    ∃ inside, part = CodePoint.scalar '(' :: inside := by
  cases spelled with
  | one => exact ⟨_, rfl⟩
  | two => exact ⟨_, rfl⟩

/-- The arguments are numerals that stand in the text. -/
theorem infix_of_mem_numerals
    {numeral : Text}
    (spelled : SpellsArguments part arguments)
    (member : numeral ∈ arguments.numerals) :
    Numeral.IsNumeral numeral ∧ numeral <:+: part := by
  have inside
      {source digits : Text}
      (spelled : SpellsNumeral source digits) :
      digits <:+: source := by
    rcases spelled with ⟨_, before, after, _, _, rfl⟩
    exact ⟨before, after, List.append_assoc before digits after⟩
  cases spelled with
  | @one source first trail first_spelled _ =>
      rw [List.mem_singleton.1 member]
      refine ⟨first_spelled.1, (inside first_spelled).trans ?_⟩
      exact ⟨"(", ")" ++ trail, List.append_assoc _ _ _⟩
  | @two source first source' second trail first_spelled second_spelled _ =>
      rcases List.mem_cons.1 member with rfl | later
      · refine ⟨first_spelled.1, (inside first_spelled).trans ?_⟩
        exact ⟨"(", "," ++ (source' ++ (")" ++ trail)),
          List.append_assoc _ _ _⟩
      · rw [List.mem_singleton.1 later]
        refine ⟨second_spelled.1, (inside second_spelled).trans ?_⟩
        exact ⟨"(" ++ (source ++ ","), ")" ++ trail, by
          simp only [List.append_assoc]⟩

end SpellsArguments

namespace DeclaredType

/-! ## Finding the arguments -/

theorem spellsNumeral_of_digitsThenSpace?
    {text digits rest : Text}
    (found : digitsThenSpace? text.trimStart = some (digits, rest)) :
    ∃ source, SpellsNumeral source digits ∧ text = source ++ rest := by
  have numeral := isNumeral_of_digitsThenSpace? found
  rcases Text.append_of_trimStart text with ⟨before, before_blank, text_eq⟩
  unfold digitsThenSpace? at found
  split at found
  · cases found
  · next first others digits_eq =>
    rcases Prod.mk.inj (Option.some.inj found) with ⟨same, rest_eq⟩
    rw [same] at digits_eq
    rcases Text.append_of_trimStart
        (text.trimStart.dropWhile CodePoint.isDecimal) with
      ⟨after, after_blank, behind_eq⟩
    rw [rest_eq] at behind_eq
    have trimmed_eq : text.trimStart = digits ++ (after ++ rest) := by
      rw [← behind_eq, ← digits_eq]
      exact List.takeWhile_append_dropWhile.symm
    refine ⟨_, ⟨numeral, before, after, before_blank, after_blank, rfl⟩, ?_⟩
    rw [text_eq, trimmed_eq]
    simp only [List.append_assoc]

theorem digitsThenSpace?_append
    {source digits : Text}
    {mark : CodePoint}
    (spelled : SpellsNumeral source digits)
    (visible : mark.isBlank = false)
    (noDigit : mark.isDecimal = false)
    (rest : Text) :
    digitsThenSpace? (Text.trimStart (source ++ mark :: rest)) =
      some (digits, mark :: rest) := by
  rcases spelled with
    ⟨numeral, before, after, before_blank, after_blank, rfl⟩
  rw [Text.isBlank, List.all_eq_true] at before_blank after_blank
  have digits_visible : ∀ point ∈ (digits ++ (after ++ mark :: rest)).head?,
      point.isBlank = false := by
    cases digits with
    | nil => exact absurd rfl numeral.nonempty
    | cons first digits =>
        rintro point ⟨rfl⟩
        rw [← Bool.not_eq_true]
        intro blank
        have decimal := numeral.decimal first List.mem_cons_self
        rw [CodePoint.isDecimal_eq_false_of_isBlank blank] at decimal
        cases decimal
  have ends : ∀ point ∈ (after ++ mark :: rest).head?,
      point.isDecimal = false := by
    cases after with
    | nil =>
        rintro point ⟨rfl⟩
        exact noDigit
    | cons first after =>
        rintro point ⟨rfl⟩
        exact CodePoint.isDecimal_eq_false_of_isBlank
          (after_blank first List.mem_cons_self)
  have mark_visible : ∀ point ∈ (mark :: rest).head?,
      point.isBlank = false := by
    rintro point ⟨rfl⟩
    exact visible
  rw [List.append_assoc, List.append_assoc, Text.trimStart,
    Text.dropWhile_append_of_run before_blank digits_visible,
    digitsThenSpace?, Text.takeWhile_append_of_run numeral.decimal ends,
    Text.dropWhile_append_of_run numeral.decimal ends, Text.trimStart,
    Text.dropWhile_append_of_run after_blank mark_visible]
  cases digits with
  | nil => exact absurd rfl numeral.nonempty
  | cons first digits => rfl

theorem closes_iff
    {text : Text} :
    closes text = true ↔
      ∃ trail : Text, trail.isBlank = true ∧ text = ")" ++ trail := by
  rw [closes, Option.any_eq_true]
  constructor
  · rintro ⟨trail, found, blank⟩
    exact ⟨trail, blank, Text.append_of_after? found⟩
  · rintro ⟨trail, blank, rfl⟩
    exact ⟨trail, Text.after?_append ")" trail, blank⟩

/-- Arguments are found exactly where they are spelled. -/
@[simp]
theorem arguments?_eq_some_iff
    {text : Text}
    {arguments : TypeArguments} :
    arguments? text = some arguments ↔
      SpellsArguments ("(" ++ text) arguments := by
  constructor
  · intro found
    unfold arguments? at found
    simp only [Option.bind_eq_bind, Option.bind_eq_some_iff, Prod.exists]
      at found
    rcases found with ⟨first, afterFirst, first_found, found⟩
    rcases spellsNumeral_of_digitsThenSpace? first_found with
      ⟨source, first_spelled, rfl⟩
    split at found
    · next afterComma comma_found =>
      simp only [Option.bind_eq_some_iff, Prod.exists] at found
      rcases found with ⟨second, afterSecond, second_found, found⟩
      rcases spellsNumeral_of_digitsThenSpace? second_found with
        ⟨source', second_spelled, rfl⟩
      split at found
      · next closed =>
        rcases closes_iff.1 closed with ⟨trail, trail_blank, rfl⟩
        cases found
        rw [Text.append_of_after? comma_found]
        exact .two first_spelled second_spelled trail_blank
      · cases found
    · split at found
      · next closed =>
        rcases closes_iff.1 closed with ⟨trail, trail_blank, rfl⟩
        cases found
        exact .one first_spelled trail_blank
      · cases found
  · intro spelled
    generalize part_eq : ("(" : Text) ++ text = part at spelled
    cases spelled with
    | @one source first trail first_spelled trail_blank =>
        obtain rfl := List.append_cancel_left part_eq
        have first_found :
            digitsThenSpace? (Text.trimStart (source ++ (")" ++ trail))) =
              some (first, ")" ++ trail) :=
          digitsThenSpace?_append first_spelled rfl rfl trail
        have noComma : Text.after? "," ((")" : Text) ++ trail) = none := rfl
        have closed : closes ((")" : Text) ++ trail) = true :=
          closes_iff.2 ⟨trail, trail_blank, rfl⟩
        simp only [arguments?, bind, first_found, Option.bind_some, noComma,
          if_pos closed]
    | @two source first source' second trail first_spelled second_spelled
        trail_blank =>
        obtain rfl := List.append_cancel_left part_eq
        have first_found :
            digitsThenSpace? (Text.trimStart
              (source ++ ("," ++ (source' ++ (")" ++ trail))))) =
                some (first, "," ++ (source' ++ (")" ++ trail))) :=
          digitsThenSpace?_append first_spelled rfl rfl _
        have second_found :
            digitsThenSpace? (Text.trimStart (source' ++ (")" ++ trail))) =
              some (second, ")" ++ trail) :=
          digitsThenSpace?_append second_spelled rfl rfl trail
        have closed : closes ((")" : Text) ++ trail) = true :=
          closes_iff.2 ⟨trail, trail_blank, rfl⟩
        simp only [arguments?, bind, first_found, Option.bind_some,
          Text.after?_append, second_found, if_pos closed]

/-! ## Splitting at the parenthesis -/

/-- A declared type is split at its first opening parenthesis, provided that
arguments are spelled there.  The name is trimmed. -/
inductive Splits (declared : Text) : Text → Option TypeArguments → Prop where
  | plain
      (noParenthesis : CodePoint.scalar '(' ∉ declared) :
      Splits declared declared.trim none
  | arguments
      {before part : Text}
      {found : TypeArguments}
      (noParenthesis : CodePoint.scalar '(' ∉ before)
      (spelled : SpellsArguments part found)
      (declared_eq : declared = before ++ part) :
      Splits declared before.trim (some found)
  | whole
      {before inside : Text}
      (noParenthesis : CodePoint.scalar '(' ∉ before)
      (declared_eq : declared = before ++ ("(" ++ inside))
      (notSpelled : ∀ found, ¬ SpellsArguments ("(" ++ inside) found) :
      Splits declared declared.trim none

theorem cutAtFirst?_parenthesis_eq_none_iff
    {text : Text} :
    Text.cutAtFirst? "(" text = none ↔ CodePoint.scalar '(' ∉ text := by
  rw [Text.cutAtFirst?_eq_none_iff, not_iff_not]
  exact List.singleton_infix_iff (CodePoint.scalar '(') text

theorem cutAtFirst?_parenthesis_eq_some_iff
    {text before inside : Text} :
    Text.cutAtFirst? "(" text = some (before, inside) ↔
      CodePoint.scalar '(' ∉ before ∧ text = before ++ ("(" ++ inside) := by
  constructor
  · intro cut
    have notIn := Text.not_infix_of_cutAtFirst? (by decide) cut
    refine ⟨fun member => notIn ?_, ?_⟩
    · exact (List.singleton_infix_iff _ _).2 member
    · rw [Text.append_of_cutAtFirst? cut, List.append_assoc]
  · rintro ⟨noParenthesis, rfl⟩
    exact Text.cutAtFirst?_singleton_append noParenthesis inside

/-- The parts of a declared type are those that it is split into. -/
theorem splits_iff
    {declared name : Text}
    {arguments : Option TypeArguments} :
    Splits declared name arguments ↔ ofText declared = ⟨name, arguments⟩ := by
  constructor
  · intro splits
    cases splits with
    | plain noParenthesis =>
        rw [ofText, cutAtFirst?_parenthesis_eq_none_iff.2 noParenthesis]
    | @arguments before part found noParenthesis spelled declared_eq =>
        rcases spelled.exists_eq_cons with ⟨inside, rfl⟩
        have found_eq : arguments? inside = some found :=
          arguments?_eq_some_iff.2 spelled
        rw [ofText, cutAtFirst?_parenthesis_eq_some_iff.2
          ⟨noParenthesis, declared_eq⟩]
        simp only [found_eq]
    | @whole before inside noParenthesis declared_eq notSpelled =>
        have notFound : arguments? inside = none := by
          rw [Option.eq_none_iff_forall_ne_some]
          exact fun found found_eq =>
            notSpelled found (arguments?_eq_some_iff.1 found_eq)
        rw [ofText, cutAtFirst?_parenthesis_eq_some_iff.2
          ⟨noParenthesis, declared_eq⟩]
        simp only [notFound]
  · intro parts_eq
    rw [ofText] at parts_eq
    split at parts_eq
    · next uncut =>
      cases parts_eq
      exact .plain (cutAtFirst?_parenthesis_eq_none_iff.1 uncut)
    · next before inside cut =>
      rcases cutAtFirst?_parenthesis_eq_some_iff.1 cut with
        ⟨noParenthesis, declared_eq⟩
      split at parts_eq
      · next found found_eq =>
        cases parts_eq
        exact .arguments noParenthesis (arguments?_eq_some_iff.1 found_eq)
          declared_eq
      · next notFound =>
        cases parts_eq
        refine .whole noParenthesis declared_eq fun found spelled => ?_
        rw [arguments?_eq_some_iff.2 spelled] at notFound
        cases notFound

/-- The arguments of a declared type are numerals that stand in it. -/
theorem Splits.infix_of_mem_numerals
    {declared name numeral : Text}
    {found : TypeArguments}
    (splits : Splits declared name (some found))
    (member : numeral ∈ found.numerals) :
    Numeral.IsNumeral numeral ∧ numeral <:+: declared := by
  cases splits with
  | @arguments before part _ _ spelled declared_eq =>
      have inside := spelled.infix_of_mem_numerals member
      refine ⟨inside.1, inside.2.trans ?_⟩
      rw [declared_eq]
      exact (List.suffix_append before part).isInfix

/-! ## Layouts -/

/-- A way to lay out a declared type. -/
structure Layout where
  lead : Text
  name : Text
  gap : Text
  part : Text
  arguments : Option TypeArguments

/-- What may stand behind the name: nothing but blanks, or arguments. -/
inductive SpellsPart : Text → Option TypeArguments → Prop where
  | nothing
      {part : Text}
      (part_blank : part.isBlank = true) :
      SpellsPart part none
  | arguments
      {part : Text}
      {found : TypeArguments}
      (spelled : SpellsArguments part found) :
      SpellsPart part (some found)

namespace Layout

/-- A declared type can be laid out like this. -/
structure Of (declared : Text) (layout : Layout) : Prop where
  declared_eq :
    declared = layout.lead ++ (layout.name ++ (layout.gap ++ layout.part))
  lead_blank : layout.lead.isBlank = true
  gap_blank : layout.gap.isBlank = true
  noParenthesis : CodePoint.scalar '(' ∉ layout.name
  spelled : SpellsPart layout.part layout.arguments

/-- Of all layouts, one with the most blanks in front of the name, and of
these the one with the shortest name. -/
structure IsFirst (declared : Text) (layout : Layout) : Prop where
  of : layout.Of declared
  longest : ∀ other : Layout,
    other.Of declared → other.lead.length ≤ layout.lead.length
  shortest : ∀ other : Layout,
    other.Of declared → other.lead = layout.lead →
      layout.name.length ≤ other.name.length

variable
    {declared : Text}
    {layout : Layout}

/-- In every layout stand the arguments of the type, behind its name and
blanks. -/
theorem Of.ofText_eq
    (of : layout.Of declared) :
    ofText declared = ⟨layout.name.trim, layout.arguments⟩ := by
  rcases layout with ⟨lead, name, gap, part, arguments⟩
  rcases of with
    ⟨declared_eq, lead_blank, gap_blank, noParenthesis, spelled⟩
  simp only at declared_eq lead_blank gap_blank noParenthesis spelled ⊢
  have notIn {blank : Text} (isBlank : blank.isBlank = true) :
      CodePoint.scalar '(' ∉ blank := by
    rw [Text.isBlank, List.all_eq_true] at isBlank
    exact fun member => absurd (isBlank _ member) (by decide)
  rw [← splits_iff]
  cases spelled with
  | nothing part_blank =>
      have behind_blank := Text.isBlank_append gap_blank part_blank
      have plain : CodePoint.scalar '(' ∉ declared := by
        rw [declared_eq, List.mem_append, List.mem_append, not_or, not_or]
        exact ⟨notIn lead_blank, noParenthesis, notIn behind_blank⟩
      have name_eq : declared.trim = name.trim := by
        rw [declared_eq, Text.trim_between_blanks lead_blank behind_blank]
      rw [← name_eq]
      exact .plain plain
  | arguments spelled =>
      have plain : CodePoint.scalar '(' ∉ lead ++ (name ++ gap) := by
        rw [List.mem_append, List.mem_append, not_or, not_or]
        exact ⟨notIn lead_blank, noParenthesis, notIn gap_blank⟩
      have name_eq : Text.trim (lead ++ (name ++ gap)) = name.trim :=
        Text.trim_between_blanks lead_blank gap_blank name
      rw [← name_eq]
      refine .arguments plain spelled ?_
      rw [declared_eq]
      simp only [List.append_assoc]

/-- The first layout leaves all blanks outside of the name. -/
theorem IsFirst.trim_eq
    (first : layout.IsFirst declared) :
    layout.name.trim = layout.name := by
  rcases Text.append_of_trim layout.name with
    ⟨before, after, before_blank, after_blank, name_eq⟩
  have shifted : Layout.Of declared
      ⟨layout.lead ++ before, layout.name.trim, after ++ layout.gap,
        layout.part, layout.arguments⟩ :=
    { declared_eq := by
        rw [first.of.declared_eq]
        conv_lhs => rw [name_eq]
        simp only [List.append_assoc]
      lead_blank := Text.isBlank_append first.of.lead_blank before_blank
      gap_blank := Text.isBlank_append after_blank first.of.gap_blank
      noParenthesis := by
        intro member
        apply first.of.noParenthesis
        rw [name_eq]
        exact List.mem_append_right _ (List.mem_append_left _ member)
      spelled := first.of.spelled }
  have longest := first.longest _ shifted
  rw [List.length_append] at longest
  obtain rfl : before = [] := List.length_eq_zero_iff.1 (by omega)
  have shortest := first.shortest _ shifted (List.append_nil _)
  have lengths := congrArg List.length name_eq
  rw [List.nil_append, List.length_append] at lengths
  simp only at shortest
  obtain rfl : after = [] := List.length_eq_zero_iff.1 (by omega)
  rw [List.nil_append, List.append_nil] at name_eq
  exact name_eq.symm

/-- A text that can be laid out has a first layout. -/
theorem Of.exists_isFirst
    (of : layout.Of declared) :
    ∃ first : Layout, first.IsFirst declared := by
  have bounded (other : Layout) (of : other.Of declared) :
      other.lead.length ≤ declared.length := by
    rw [of.declared_eq, List.length_append]
    exact Nat.le_add_right _ _
  have widest := (measure fun other : Layout =>
    declared.length - other.lead.length).wf.has_min
      {other | other.Of declared} ⟨layout, of⟩
  rcases widest with ⟨wide, wide_of, no_wider⟩
  have least := (measure fun other : Layout => other.name.length).wf.has_min
    {other | other.Of declared ∧ other.lead = wide.lead} ⟨wide, wide_of, rfl⟩
  rcases least with ⟨first, ⟨first_of, lead_eq⟩, no_shorter⟩
  refine ⟨first, first_of, ?_, ?_⟩
  · intro other other_of
    have notWider : ¬ declared.length - other.lead.length <
        declared.length - wide.lead.length := no_wider other other_of
    have other_bounded := bounded other other_of
    have wide_bounded := bounded wide wide_of
    rw [lead_eq]
    omega
  · intro other other_of same
    exact Nat.not_lt.1 (no_shorter other ⟨other_of, same.trans lead_eq⟩)

/-- A text that cannot be laid out is a name as a whole. -/
theorem ofText_of_forall_not_of
    (none_of : ∀ layout : Layout, ¬ layout.Of declared) :
    ofText declared = ⟨declared.trim, none⟩ := by
  have splits : Splits declared (ofText declared).name
      (ofText declared).arguments := splits_iff.2 rfl
  generalize ofText declared = parts at splits ⊢
  rcases parts with ⟨name, arguments⟩
  cases splits with
  | plain => rfl
  | @arguments before part found noParenthesis spelled declared_eq =>
      exact absurd
        { declared_eq := declared_eq
          lead_blank := rfl
          gap_blank := rfl
          noParenthesis := noParenthesis
          spelled := .arguments spelled }
        (none_of ⟨[], before, [], part, some found⟩)
  | whole => rfl

end Layout

end DeclaredType

/-! ## What is made of the parts -/

/-- What a declared type with a name and arguments is understood as.  The
first argument is the length of texts and blobs.  For everything else it is
the precision, and the second one is the scale, which is zero if it is
missing. -/
structure UnderstoodAs
    (declared name : Text)
    (arguments : Option TypeArguments)
    (nullable : Option Bool)
    (type : Schema.ColumnType) : Prop where
  databaseTypeName : type.databaseTypeName = name.toUpper
  dataType : type.dataType = (Affinity.ofDeclared declared).name
  nullable : type.nullable = nullable
  withoutArguments :
    arguments = none →
      type.length = none ∧ type.precision = none ∧ type.scale = none
  withLength : ∀ found,
    arguments = some found →
    (Affinity.ofDeclared declared = .text ∨
      Affinity.ofDeclared declared = .blob) →
      type.length = some (Numeral.value found.first : Int) ∧
        type.precision = none ∧ type.scale = none
  withPrecision : ∀ found,
    arguments = some found →
    ¬ (Affinity.ofDeclared declared = .text ∨
      Affinity.ofDeclared declared = .blob) →
      type.length = none ∧
        type.precision = some (Numeral.value found.first : Int) ∧
        type.scale =
          some (((found.second.map Numeral.value).getD 0 : Nat) : Int)

@[simp]
theorem Affinity.hasLength_iff
    {affinity : Affinity} :
    affinity.hasLength = true ↔ affinity = .text ∨ affinity = .blob := by
  cases affinity <;> decide

/-- Numerals of admissible length are read as their values. -/
theorem TypeArguments.read_eq
    {arguments : TypeArguments}
    (readable : ∀ numeral ∈ arguments.numerals,
      Numeral.IsNumeral numeral ∧ numeral.length ≤ Numeral.longest) :
    Numeral.read arguments.first = .ok (Numeral.value arguments.first) ∧
      arguments.second.mapM Numeral.read =
        .ok (arguments.second.map Numeral.value) := by
  have read_eq {numeral : Text} (member : numeral ∈ arguments.numerals) :
      Numeral.read numeral = .ok (Numeral.value numeral) := by
    rcases readable numeral member with ⟨isNumeral, short⟩
    exact isNumeral.read_eq_ok_iff.2 ⟨rfl, short⟩
  refine ⟨read_eq List.mem_cons_self, ?_⟩
  rcases arguments with ⟨first, _ | second⟩
  · rfl
  · have second_eq := read_eq (List.mem_cons_of_mem _ List.mem_cons_self)
    rw [Option.mapM_some, second_eq]
    rfl

theorem exists_columnTypeOfDeclared_of_splits
    {declared name : Text}
    {arguments : Option TypeArguments}
    (splits : DeclaredType.Splits declared name arguments)
    (short : ∀ run, run <:+: declared →
      (∀ point ∈ run, point.isDecimal = true) →
        run.length ≤ Numeral.longest)
    (nullable : Option Bool) :
    ∃ type, columnTypeOfDeclared declared nullable = .ok type ∧
      UnderstoodAs declared name arguments nullable type := by
  have parts_eq := DeclaredType.splits_iff.1 splits
  cases arguments with
  | none =>
      simp only [columnTypeOfDeclared, parts_eq]
      refine ⟨_, rfl, rfl, rfl, rfl, fun _ => ⟨rfl, rfl, rfl⟩, ?_, ?_⟩
      all_goals
        intro found impossible
        cases impossible
  | some found =>
      have readable (numeral : Text) (member : numeral ∈ found.numerals) :
          Numeral.IsNumeral numeral ∧ numeral.length ≤ Numeral.longest := by
        rcases splits.infix_of_mem_numerals member with ⟨isNumeral, inside⟩
        exact ⟨isNumeral, short numeral inside isNumeral.decimal⟩
      rcases TypeArguments.read_eq readable with ⟨first_eq, second_eq⟩
      simp only [columnTypeOfDeclared, parts_eq, first_eq, second_eq]
      by_cases hasLength : (Affinity.ofDeclared declared).hasLength = true
      · have isLength := Affinity.hasLength_iff.1 hasLength
        refine ⟨_, if_pos hasLength, rfl, rfl, rfl, ?_, ?_, ?_⟩
        · intro impossible
          cases impossible
        · rintro _ ⟨rfl⟩ _
          exact ⟨rfl, rfl, rfl⟩
        · intro _ _ notLength
          exact absurd isLength notLength
      · have notLength := mt Affinity.hasLength_iff.2 hasLength
        refine ⟨_, if_neg hasLength, rfl, rfl, rfl, ?_, ?_, ?_⟩
        · intro impossible
          cases impossible
        · intro _ _ isLength
          exact absurd isLength notLength
        · rintro _ ⟨rfl⟩ _
          exact ⟨rfl, rfl, rfl⟩

/--
A declared type without an overlong run of digits is split in exactly one way,
at its first opening parenthesis if arguments are spelled there, and is
understood by its parts.  They are those of the first layout of the text.
Where there is none, the text cannot be laid out at all, and is the name as a
whole.
-/
theorem columnTypeOfDeclared_by_parts
    (declared : Text)
    (nullable : Option Bool)
    (short : ∀ run, run <:+: declared →
      (∀ point ∈ run, point.isDecimal = true) →
        run.length ≤ Numeral.longest) :
    ∃ name arguments,
      (∀ name' arguments',
        DeclaredType.Splits declared name' arguments' ↔
          name' = name ∧ arguments' = arguments) ∧
      (∀ layout : DeclaredType.Layout, layout.IsFirst declared →
        layout.name = name ∧ layout.arguments = arguments) ∧
      ((∃ layout : DeclaredType.Layout, layout.IsFirst declared) ∨
        (∀ layout : DeclaredType.Layout, ¬ layout.Of declared) ∧
          name = declared.trim ∧ arguments = none) ∧
      ∃ type, columnTypeOfDeclared declared nullable = .ok type ∧
        UnderstoodAs declared name arguments nullable type := by
  refine ⟨(DeclaredType.ofText declared).name,
    (DeclaredType.ofText declared).arguments, ?_, ?_, ?_, ?_⟩
  · intro name' arguments'
    rw [DeclaredType.splits_iff]
    constructor
    · intro parts_eq
      rw [parts_eq]
      exact ⟨rfl, rfl⟩
    · rintro ⟨rfl, rfl⟩
      rfl
  · intro layout first
    have parts_eq := first.of.ofText_eq
    rw [first.trim_eq] at parts_eq
    rw [parts_eq]
    exact ⟨rfl, rfl⟩
  · by_cases some_of : ∃ layout : DeclaredType.Layout, layout.Of declared
    · rcases some_of with ⟨layout, of⟩
      exact .inl of.exists_isFirst
    · have none_of := not_exists.1 some_of
      rw [DeclaredType.Layout.ofText_of_forall_not_of none_of]
      exact .inr ⟨none_of, rfl, rfl⟩
  · exact exists_columnTypeOfDeclared_of_splits
      (DeclaredType.splits_iff.2 rfl) short nullable

/-- A decimal type with blanks in all places, and digits of two scripts. -/
theorem columnTypeOfDeclared_by_parts_decimal :
    (∀ run : Text, run <:+: ("decimal ( 10 , \u0662 ) " : Text) →
      (∀ point ∈ run, point.isDecimal = true) →
        run.length ≤ Numeral.longest) ∧
    ∃ type,
      columnTypeOfDeclared "decimal ( 10 , \u0662 ) " (some true) = .ok type ∧
        type.databaseTypeName = "DECIMAL" ∧ type.dataType = "numeric" ∧
        type.nullable = some true ∧ type.length = none ∧
        type.precision = some 10 ∧ type.scale = some 2 := by
  have short (run : Text)
      (inside : run <:+: ("decimal ( 10 , \u0662 ) " : Text))
      (_ : ∀ point ∈ run, point.isDecimal = true) :
      run.length ≤ Numeral.longest :=
    inside.length_le.trans (by decide)
  have first_spelled : SpellsNumeral " 10 " "10" :=
    ⟨⟨by decide, by decide⟩, " ", " ", rfl, rfl, rfl⟩
  have second_spelled : SpellsNumeral " \u0662 " "\u0662" :=
    ⟨⟨by decide, by decide⟩, " ", " ", rfl, rfl, rfl⟩
  have splits : DeclaredType.Splits "decimal ( 10 , \u0662 ) "
      (Text.trim "decimal ") (some ⟨"10", some "\u0662"⟩) :=
    @DeclaredType.Splits.arguments _ "decimal " _ _ (by decide)
      (@SpellsArguments.two _ _ _ _ " " first_spelled second_spelled rfl) rfl
  rcases columnTypeOfDeclared_by_parts _ (some true) short with
    ⟨name, arguments, unique, _, _, type, type_eq, understood⟩
  rcases (unique _ _).1 splits with ⟨rfl, rfl⟩
  have numeric : Affinity.ofDeclared "decimal ( 10 , \u0662 ) " = .numeric := by
    decide
  have notLength : ¬ (Affinity.ofDeclared "decimal ( 10 , \u0662 ) " = .text ∨
      Affinity.ofDeclared "decimal ( 10 , \u0662 ) " = .blob) := by
    rw [numeric]
    decide
  rcases understood.withPrecision _ rfl notLength with
    ⟨length_eq, precision_eq, scale_eq⟩
  refine ⟨short, type, type_eq, ?_, ?_, understood.nullable, length_eq,
    precision_eq, scale_eq⟩
  · rw [understood.databaseTypeName]
    decide
  · rw [understood.dataType, numeric]
    rfl

end AnnotatedSql.Sqlite
