import AnnotatedSql.Text.Basic
import AnnotatedSql.Text.Blank
import Mathlib

/-!
# Cutting text at a word

Text is cut at the first occurrence of a word, if the word occurs at all.
Whether it does, and where the first occurrence is, depends on the text up to
the end of that occurrence only.  So a cut that has been found stays the same
when more text follows, and a word that is put behind a text without it is
found there.
-/

namespace AnnotatedSql.Text

/-! ## Occurrences -/

/-- What stands at the start of a text stands there whatever follows. -/
theorem after?_append_of_some
    {word text rest : Text}
    (found : after? word text = some rest)
    (more : Text) :
    after? word (text ++ more) = some (rest ++ more) := by
  rw [append_of_after? found, List.append_assoc, after?_append]

/-- Whether a word stands at the start of a text that is as long is up to the
text. -/
theorem after?_append_of_none
    {word text : Text}
    (long : word.length ≤ text.length)
    (absent : after? word text = none)
    (more : Text) :
    after? word (text ++ more) = none := by
  rw [Option.eq_none_iff_forall_ne_some]
  intro rest found
  have isPrefix : word <+: text := by
    refine List.prefix_of_prefix_length_le ?_ (List.prefix_append text more)
      long
    rw [append_of_after? found]
    exact List.prefix_append word rest
  rcases isPrefix with ⟨others, rfl⟩
  rw [after?_append] at absent
  exact nomatch absent

/-- A word does not reach over a code point that it does not hold. -/
theorem after?_append_mark
    {word : Text}
    {mark : CodePoint}
    (notIn : mark ∉ word)
    (text more : Text) :
    after? word (text ++ mark :: more) =
      (after? word text).map (· ++ mark :: more) := by
  induction word generalizing text with
  | nil => rfl
  | cons expected word induction_hypothesis =>
      rw [List.mem_cons, not_or] at notIn
      cases text with
      | nil => exact if_neg (Ne.symm notIn.1)
      | cons found text =>
          rw [List.cons_append, after?, after?]
          split
          · exact induction_hypothesis notIn.2 text
          · rfl

/-- A cut stays the same whatever follows. -/
theorem cutAtFirst?_append_of_some
    {word text before rest : Text}
    (cut : cutAtFirst? word text = some (before, rest))
    (more : Text) :
    cutAtFirst? word (text ++ more) = some (before, rest ++ more) := by
  induction text generalizing before with
  | nil =>
      rw [cutAtFirst?, Option.map_eq_some_iff] at cut
      rcases cut with ⟨_, found, pair_eq⟩
      cases pair_eq
      rcases List.append_eq_nil_iff.1 (append_of_after? found).symm with
        ⟨rfl, rfl⟩
      cases more with
      | nil => rfl
      | cons first more => rfl
  | cons first text induction_hypothesis =>
      rw [cutAtFirst?] at cut
      cases found : after? word (first :: text) with
      | some rest' =>
          rw [found] at cut
          cases cut
          rw [List.cons_append, cutAtFirst?, ← List.cons_append,
            after?_append_of_some found]
      | none =>
          rw [found, Option.map_eq_some_iff] at cut
          rcases cut with ⟨⟨before', rest'⟩, cut, pair_eq⟩
          cases pair_eq
          -- The word occurs further on, so it fits into the text.
          have fits : word.length ≤ (first :: text).length := by
            rw [append_of_cutAtFirst? cut]
            simp only [List.length_cons, List.length_append]
            omega
          rw [List.cons_append, cutAtFirst?, ← List.cons_append,
            after?_append_of_none fits found, induction_hypothesis cut]
          rfl

/-- A word occurs in a text that it stands inside of. -/
@[simp]
theorem occursIn_append
    (before word after : Text) :
    occursIn word (before ++ (word ++ after)) = true := by
  induction before with
  | nil =>
      rw [List.nil_append, occursIn]
      cases joined_eq : word ++ after with
      | nil =>
          rcases List.append_eq_nil_iff.1 joined_eq with ⟨rfl, rfl⟩
          rfl
      | cons first text =>
          rw [cutAtFirst?, ← joined_eq, after?_append]
          rfl
  | cons first before induction_hypothesis =>
      rw [List.cons_append, occursIn, cutAtFirst?]
      split
      · rfl
      · rw [Option.isSome_map]
        exact induction_hypothesis

theorem after?_of_head_ne
    {expected found : CodePoint}
    (different : expected ≠ found)
    (word text : Text) :
    after? (expected :: word) (found :: text) = none := by
  rw [after?, if_neg different]

@[simp]
theorem cutAtFirst?_word_append
    {word : Text}
    (nonempty : word ≠ [])
    (rest : Text) :
    cutAtFirst? word (word ++ rest) = some ([], rest) := by
  cases word with
  | nil => exact absurd rfl nonempty
  | cons first word =>
      have found := after?_append (first :: word) rest
      rw [List.cons_append] at found ⊢
      rw [cutAtFirst?, found]

@[simp]
theorem after?_eq_some_iff
    {word text rest : Text} :
    after? word text = some rest ↔ text = word ++ rest := by
  constructor
  · exact append_of_after?
  · rintro rfl
    exact after?_append word rest

@[simp]
theorem occursIn_iff
    {word text : Text} :
    occursIn word text = true ↔ word <:+: text := by
  rw [occursIn, Option.isSome_iff_exists]
  constructor
  · rintro ⟨⟨before, rest⟩, cut⟩
    exact ⟨before, rest, (append_of_cutAtFirst? cut).symm⟩
  · rintro ⟨before, after, rfl⟩
    have occurs := occursIn_append before word after
    rw [occursIn, Option.isSome_iff_exists, ← List.append_assoc] at occurs
    exact occurs

/-- A text is cut nowhere exactly if it does not hold the word. -/
@[simp]
theorem cutAtFirst?_eq_none_iff
    {word text : Text} :
    cutAtFirst? word text = none ↔ ¬ word <:+: text := by
  rw [← occursIn_iff, occursIn, Option.not_isSome_iff_eq_none]

/-- A cut is no further on than any place where the word stands. -/
theorem length_le_of_cutAtFirst?
    {word before rest : Text}
    (place after : Text)
    (cut : cutAtFirst? word (place ++ (word ++ after)) =
      some (before, rest)) :
    before.length ≤ place.length := by
  induction place generalizing before with
  | nil =>
      cases word with
      | nil =>
          cases after <;> cases cut <;> exact Nat.le_refl 0
      | cons first word =>
          rw [List.nil_append,
            cutAtFirst?_word_append (List.cons_ne_nil first word)] at cut
          cases cut
          exact Nat.le_refl 0
  | cons first place induction_hypothesis =>
      rw [List.cons_append, cutAtFirst?] at cut
      split at cut
      · cases cut
        exact Nat.zero_le _
      · rw [Option.map_eq_some_iff] at cut
        rcases cut with ⟨⟨before', rest'⟩, cut, pair_eq⟩
        cases pair_eq
        exact Nat.succ_le_succ (induction_hypothesis cut)

/-- What stands before the first occurrence of a word does not hold it. -/
theorem not_infix_of_cutAtFirst?
    {word text before rest : Text}
    (nonempty : word ≠ [])
    (cut : cutAtFirst? word text = some (before, rest)) :
    ¬ word <:+: before := by
  rintro ⟨place, after, before_eq⟩
  have text_eq : text = place ++ (word ++ (after ++ word ++ rest)) := by
    rw [append_of_cutAtFirst? cut, ← before_eq]
    simp only [List.append_assoc]
  rw [text_eq] at cut
  have bound := length_le_of_cutAtFirst? place _ cut
  have positive := List.length_pos_of_ne_nil nonempty
  rw [← before_eq, List.length_append, List.length_append] at bound
  omega

/-- A word whose last code point does not stand before its end cannot begin
inside a text and end behind it. -/
theorem after?_append_eq_none
    {stem before : Text}
    {last : CodePoint}
    (lastOnly : last ∉ stem)
    (nonempty : before ≠ [])
    (notFound : after? (stem ++ [last]) before = none)
    (rest : Text) :
    after? (stem ++ [last]) (before ++ (stem ++ [last] ++ rest)) = none := by
  rw [Option.eq_none_iff_forall_ne_some]
  intro tail found
  have notPrefix (others : Text) : before ≠ stem ++ [last] ++ others := by
    rintro rfl
    rw [after?_append] at notFound
    cases notFound
  rcases List.append_eq_append_iff.1 (append_of_after? found) with
    ⟨overlap, word_eq, rest_eq⟩ | ⟨others, before_eq, _⟩
  · rcases List.eq_nil_or_concat overlap with rfl | ⟨overlap, last', rfl⟩
    · rw [List.append_nil] at word_eq
      exact notPrefix [] (by rw [word_eq, List.append_nil])
    · -- The overlap ends with the last code point, and the word begins with
      -- the overlap, so the last code point stands in the stem as well.
      rw [List.concat_eq_append, ← List.append_assoc] at word_eq
      rcases List.append_inj' word_eq rfl with ⟨stem_eq, last_eq⟩
      cases last_eq
      have shorter : overlap.length < stem.length := by
        rw [stem_eq, List.length_append]
        exact Nat.lt_add_of_pos_left (List.length_pos_of_ne_nil nonempty)
      rw [List.concat_eq_append, List.append_assoc, List.append_assoc]
        at rest_eq
      rcases List.append_eq_append_iff.1 rest_eq with
        ⟨others, overlap_eq, _⟩ | ⟨others, stem_eq', others_eq⟩
      · rw [overlap_eq, List.length_append] at shorter
        omega
      · rcases others with _ | ⟨first, others⟩
        · rw [stem_eq', List.append_nil] at shorter
          exact absurd shorter (lt_irrefl _)
        · cases others_eq
          exact lastOnly (by rw [stem_eq']; simp)
  · exact notPrefix others before_eq

/-- A text is cut at a word that does not occur in what comes before. -/
theorem cutAtFirst?_append
    {stem before : Text}
    {last : CodePoint}
    (lastOnly : last ∉ stem)
    (absent : occursIn (stem ++ [last]) before = false)
    (rest : Text) :
    cutAtFirst? (stem ++ [last]) (before ++ (stem ++ [last] ++ rest)) =
      some (before, rest) := by
  induction before with
  | nil => exact cutAtFirst?_word_append (by simp) rest
  | cons first before induction_hypothesis =>
      rw [occursIn, cutAtFirst?] at absent
      split at absent
      · cases absent
      · next notFound =>
        rw [Option.isSome_map] at absent
        have notBefore :=
          after?_append_eq_none lastOnly (List.cons_ne_nil first before)
            notFound rest
        rw [List.cons_append] at notBefore ⊢
        rw [cutAtFirst?, notBefore]
        simp only
        rw [induction_hypothesis absent]
        rfl

/-- A text is cut at a code point that it does not hold before. -/
theorem cutAtFirst?_singleton_append
    {before : Text}
    {point : CodePoint}
    (absent : point ∉ before)
    (rest : Text) :
    cutAtFirst? [point] (before ++ ([point] ++ rest)) =
      some (before, rest) := by
  have notIn : occursIn [point] before = false := by
    rw [occursIn, Option.isSome_eq_false_iff, Option.isNone_iff_eq_none,
      Option.eq_none_iff_forall_ne_some]
    rintro ⟨first, second⟩ found
    apply absent
    rw [append_of_cutAtFirst? found]
    simp
  exact @cutAtFirst?_append [] before point List.not_mem_nil notIn rest

/-! ## Runs -/

section

variable
    {belongs : CodePoint → Bool}
    {run run' rest rest' : Text}

/-- A run of code points of one kind ends where another kind begins. -/
theorem takeWhile_append_of_run
    (within : ∀ point ∈ run, belongs point = true)
    (ends : ∀ point ∈ rest.head?, belongs point = false) :
    (run ++ rest).takeWhile belongs = run := by
  rw [List.takeWhile_append_of_pos within]
  cases rest with
  | nil => exact List.append_nil run
  | cons point rest =>
      rw [List.takeWhile_cons_of_neg (by simp [ends point rfl]),
        List.append_nil]

theorem dropWhile_append_of_run
    (within : ∀ point ∈ run, belongs point = true)
    (ends : ∀ point ∈ rest.head?, belongs point = false) :
    (run ++ rest).dropWhile belongs = rest := by
  rw [List.dropWhile_append_of_pos within]
  cases rest with
  | nil => rfl
  | cons point rest =>
      rw [List.dropWhile_cons_of_neg (by simp [ends point rfl])]

/-- A run of code points of one kind can be cut off in one way only. -/
theorem append_unique_of_run
    (within : ∀ point ∈ run, belongs point = true)
    (within' : ∀ point ∈ run', belongs point = true)
    (ends : ∀ point ∈ rest.head?, belongs point = false)
    (ends' : ∀ point ∈ rest'.head?, belongs point = false)
    (same : run ++ rest = run' ++ rest') :
    run = run' ∧ rest = rest' := by
  have run_eq : run = run' := by
    rw [← takeWhile_append_of_run within ends, same,
      takeWhile_append_of_run within' ends']
  subst run_eq
  exact ⟨rfl, List.append_cancel_left same⟩

end

/-! ## Trimming -/

theorem append_of_trimEnd (text : Text) :
    ∃ blank : Text, blank.isBlank = true ∧ text = text.trimEnd ++ blank := by
  induction text with
  | nil => exact ⟨[], rfl, rfl⟩
  | cons first text induction_hypothesis =>
      rcases induction_hypothesis with ⟨blank, isBlank, text_eq⟩
      rw [trimEnd]
      split
      · next nothing =>
        rw [nothing, List.nil_append] at text_eq
        split
        · next first_blank =>
          refine ⟨first :: text, ?_, rfl⟩
          rw [Text.isBlank, List.all_cons, first_blank, text_eq]
          exact isBlank
        · exact ⟨text, by rw [text_eq]; exact isBlank, rfl⟩
      · next second others trimmed_eq =>
        rw [trimmed_eq] at text_eq
        exact ⟨blank, isBlank, congrArg (List.cons first) text_eq⟩

theorem append_of_trimStart (text : Text) :
    ∃ blank : Text, blank.isBlank = true ∧ text = blank ++ text.trimStart := by
  refine ⟨text.takeWhile CodePoint.isBlank, ?_,
    List.takeWhile_append_dropWhile.symm⟩
  rw [isBlank, List.all_eq_true]
  exact fun _ within => List.mem_takeWhile_imp within

/-- What is left after trimming stands inside the text, between blanks. -/
theorem append_of_trim (text : Text) :
    ∃ before after : Text,
      before.isBlank = true ∧ after.isBlank = true ∧
        text = before ++ (text.trim ++ after) := by
  rcases append_of_trimStart text with ⟨before, before_blank, text_eq⟩
  rcases append_of_trimEnd text.trimStart with
    ⟨after, after_blank, trimmed_eq⟩
  refine ⟨before, after, before_blank, after_blank, ?_⟩
  rw [trim, ← trimmed_eq]
  exact text_eq

/-- What begins with no blank is not touched by trimming the start. -/
theorem infix_trimStart
    {word text : Text}
    (within : word <:+: text)
    (begins : ∀ point ∈ word.head?, point.isBlank = false) :
    word <:+: text.trimStart := by
  rcases within with ⟨before, after, rfl⟩
  cases word with
  | nil => exact List.nil_infix
  | cons first word =>
      have kept :
          (first :: word ++ after).dropWhile CodePoint.isBlank =
            first :: word ++ after :=
        List.dropWhile_cons_of_neg (by simp [begins first rfl])
      rw [trimStart, List.append_assoc, List.dropWhile_append, kept]
      split
      · exact (List.prefix_append ..).isInfix
      · exact List.infix_append' ..

/-- What ends with no blank is not touched by trimming the end. -/
theorem infix_trimEnd
    {word text : Text}
    (within : word <:+: text)
    (ends : ∀ point ∈ word.getLast?, point.isBlank = false) :
    word <:+: text.trimEnd := by
  rcases append_of_trimEnd text with ⟨blank, isBlank, trimmed_eq⟩
  rcases within with ⟨before, after, text_eq⟩
  rcases List.append_eq_append_iff.1 (text_eq.trans trimmed_eq) with
    ⟨behind, trimmed_eq, _⟩ | ⟨cut, word_eq, blank_eq⟩
  · exact ⟨before, behind, trimmed_eq.symm⟩
  -- What was cut off the word would be blank, the end of the word among it.
  rcases List.eq_nil_or_concat' cut with rfl | ⟨others, last, rfl⟩
  · rw [List.append_nil] at word_eq
    exact ⟨before, [], by rw [List.append_nil, word_eq]⟩
  · rcases List.eq_nil_or_concat' word with rfl | ⟨start, point, rfl⟩
    · exact List.nil_infix
    have same : [point] = [last] := by
      rw [← List.append_assoc, ← List.append_assoc] at word_eq
      exact (List.append_inj' word_eq rfl).2
    cases same
    rw [blank_eq, Text.isBlank, List.all_eq_true] at isBlank
    have impossible := isBlank last (by simp)
    rw [ends last List.getLast?_concat] at impossible
    cases impossible

/-- A word without blanks at its ends is not touched by trimming. -/
theorem infix_trim
    {word text : Text}
    (within : word <:+: text)
    (begins : ∀ point ∈ word.head?, point.isBlank = false)
    (ends : ∀ point ∈ word.getLast?, point.isBlank = false) :
    word <:+: text.trim :=
  infix_trimEnd (infix_trimStart within begins) ends

end AnnotatedSql.Text
