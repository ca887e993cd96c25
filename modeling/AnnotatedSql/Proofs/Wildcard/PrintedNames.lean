import AnnotatedSql.Directive.Basic
import AnnotatedSql.Proofs.Text.Cutting
import AnnotatedSql.Proofs.Wildcard.TokenText

/-!
# The names that a probe query prints

What a directive contributes to the probe query is a list of items with commas
between them.  A constant with a label makes a column of that name in the
result.  The label of the first item and that of the last one are read off the
text as it stands: the first item ends at the first comma, and the last item
begins behind the last one, whatever stands between.

A wildcard of any engine prints the name of its begin sentinel in the first
place and that of its end sentinel in the last.
-/

namespace AnnotatedSql

/-! ## Labels of a text -/

namespace Text

/-- The label of an item, if it is the constant with a label; no other item
has one. -/
def label (item : Text) : Text :=
  (after? "1 AS " item).getD []

/-- The label of the item up to the first comma. -/
def firstLabel (items : Text) : Text :=
  label (items.takeWhile fun point : CodePoint => point ≠ ',')

/-- The label of the item behind the last comma and the blanks there. -/
def lastLabel (items : Text) : Text :=
  let item :=
    (items.reverse.takeWhile fun point : CodePoint => point ≠ ',').reverse
  label (item.dropWhile fun point => point = ' ')

@[simp]
theorem label_append (label : Text) :
    Text.label ("1 AS " ++ label) = label := by
  rw [Text.label, after?_append, Option.getD_some]

variable {item : Text}

theorem takeWhile_append_comma
    (noComma : CodePoint.scalar ',' ∉ item)
    (behind : Text) :
    (item ++ CodePoint.scalar ',' :: behind).takeWhile
      (fun point : CodePoint => point ≠ ',') = item := by
  refine takeWhile_append_of_run ?_ ?_
  · intro point member
    exact decide_eq_true (ne_of_mem_of_not_mem member noComma)
  · rintro point ⟨⟩
    rfl

@[simp]
theorem firstLabel_append_comma
    (noComma : CodePoint.scalar ',' ∉ item)
    (behind : Text) :
    firstLabel (item ++ CodePoint.scalar ',' :: behind) = label item := by
  rw [firstLabel, takeWhile_append_comma noComma]

theorem lastLabel_append_comma
    (before : Text)
    (noComma : CodePoint.scalar ',' ∉ item) :
    lastLabel (before ++ CodePoint.scalar ',' :: item) =
      label (item.dropWhile fun point : CodePoint => point = ' ') := by
  have noComma' : CodePoint.scalar ',' ∉ item.reverse :=
    mt List.mem_reverse.1 noComma
  rw [lastLabel, List.reverse_append, List.reverse_cons, List.append_assoc,
    List.singleton_append, takeWhile_append_comma noComma',
    List.reverse_reverse]

end Text

/-! ## Labels of a probe -/

namespace Wildcard

/-- No comma stands in a sentinel. -/
theorem comma_notMem_sentinel
    (token : MarkerToken)
    (number : Nat)
    (isBegin : Bool) :
    CodePoint.scalar ',' ∉ sentinel token ⟨number, isBegin⟩ := by
  intro member
  simp only [sentinel, MarkerToken.encode, List.mem_append, or_assoc]
    at member
  rcases member with constant | within | lowLine | digit | lowLine | letter
  · exact absurd constant (by decide)
  · rcases MarkerToken.cases_of_mem_text within with letter | digit | lineFeed
    · cases letter
    · cases digit
    · cases lineFeed
  · exact absurd lowLine (by decide)
  · exact absurd (Numeral.isAsciiDigit_of_mem_ofNat digit) (by decide)
  · exact absurd lowLine (by decide)
  · have noLetter :
        ∀ isBegin : Bool,
          CodePoint.scalar ',' ∉
            Text.ofString (if isBegin then "b" else "e") := by
      decide
    exact noLetter isBegin letter

/-- The sentinels stand at both ends of a probe, with a comma behind the first
and one before the last. -/
theorem exists_probe_eq
    (quote : Text → Text)
    (token : MarkerToken)
    (wildcard : Wildcard) :
    (∃ behind : Text,
      wildcard.probe quote token =
        sentinel token ⟨wildcard.index, true⟩ ++
          CodePoint.scalar ',' :: behind) ∧
      ∃ before : Text,
        wildcard.probe quote token =
          before ++ CodePoint.scalar ',' :: CodePoint.scalar ' ' ::
            sentinel token ⟨wildcard.index, false⟩ := by
  let first := sentinel token ⟨wildcard.index, true⟩
  have comma_eq (text : Text) :
      Text.ofString ", " ++ text =
        CodePoint.scalar ',' :: CodePoint.scalar ' ' :: text :=
    rfl
  rw [probe]
  split
  · simp only [List.append_nil, List.singleton_append,
      List.intercalate_cons_cons, List.intercalate_singleton, comma_eq,
      List.append_assoc]
    exact ⟨⟨_, rfl⟩, first, rfl⟩
  · simp only [List.cons_append, List.nil_append,
      List.intercalate_cons_cons, List.intercalate_singleton, comma_eq,
      List.append_assoc]
    refine ⟨⟨_, rfl⟩, first ++ (", " ++ wildcard.expansion quote), ?_⟩
    rw [List.append_assoc, List.append_assoc]
    rfl

variable
    (quote : Text → Text)
    (token : MarkerToken)
    (wildcard : Wildcard)

/-- The first label that a wildcard prints is the name of its begin
sentinel. -/
theorem firstLabel_queryFragment :
    Text.firstLabel ((Directive.wildcard token wildcard).queryFragment quote) =
      token.encode ⟨wildcard.index, true⟩ := by
  rcases (exists_probe_eq quote token wildcard).1 with ⟨behind, probe_eq⟩
  rw [Directive.queryFragment, probe_eq,
    Text.firstLabel_append_comma (comma_notMem_sentinel token _ true), sentinel,
    Text.label_append]

/-- The last label that a wildcard prints is the name of its end sentinel. -/
theorem lastLabel_queryFragment :
    Text.lastLabel ((Directive.wildcard token wildcard).queryFragment quote) =
      token.encode ⟨wildcard.index, false⟩ := by
  rcases (exists_probe_eq quote token wildcard).2 with ⟨before, probe_eq⟩
  have noComma :
      CodePoint.scalar ',' ∉
        CodePoint.scalar ' ' :: sentinel token ⟨wildcard.index, false⟩ := by
    rw [List.mem_cons, not_or]
    exact ⟨by decide, comma_notMem_sentinel token _ false⟩
  rw [Directive.queryFragment, probe_eq, Text.lastLabel_append_comma _ noComma,
    List.dropWhile_cons_of_pos rfl]
  exact Text.label_append _

/-- The executed query holds what a wildcard prints, sentinels included. -/
theorem queryFragment_infix_trim
    {text : Text}
    (within :
      (Directive.wildcard token wildcard).queryFragment quote <:+: text) :
    (Directive.wildcard token wildcard).queryFragment quote <:+: text.trim := by
  rcases exists_probe_eq quote token wildcard with
    ⟨⟨behind, begins_eq⟩, before, ends_eq⟩
  refine Text.infix_trim within ?_ ?_
  · rw [Directive.queryFragment, begins_eq]
    rintro point ⟨⟩
    rfl
  · have last_eq :
        (wildcard.probe quote token).getLast? =
          some (CodePoint.scalar 'e') := by
      rw [ends_eq, sentinel, MarkerToken.encode, if_neg Bool.false_ne_true,
        ← List.append_assoc, ← List.cons_append, ← List.cons_append,
        ← List.append_assoc]
      exact List.getLast?_concat
    rw [Directive.queryFragment, last_eq]
    rintro point ⟨⟩
    rfl

end Wildcard

end AnnotatedSql
