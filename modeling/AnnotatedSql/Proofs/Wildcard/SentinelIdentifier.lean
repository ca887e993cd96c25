import AnnotatedSql.Directive.Reading
import AnnotatedSql.Proofs.Wildcard.SelectList

/-!
# Sentinels stand without quotation marks

A sentinel is a constant with a label, and its label is written without
quotation marks.  So it has to be an identifier, and it is one if the token is
plain and the number is not negative.  Whatever items stand before and behind
the sentinel in a select list, the label is then read as one identifier, and
as the one that was written.

A text that is no token is refused, and the statement that was to have it is
left without wildcards.
-/

namespace AnnotatedSql

open AnnotatedSql.SelectList AnnotatedSql.Wildcard

/-- A text that is no token makes no state for the wildcards of a statement. -/
theorem Draft.wildcardsWith_of_refused
    {draft : Draft}
    {text : Text}
    (absent : draft.locals.get? .wildcards = none)
    (refused : MarkerToken.ofText? text = none) :
    draft.wildcardsWith (fun supply => (text, supply)) =
      (.error (.invalidToken text), draft) := by
  rw [wildcardsWith, absent]
  simp only [refused]

namespace Wildcard.MarkerToken

/-! ## Plain tokens -/

/-- A token is plain, or a plain text with a line feed behind it. -/
theorem isPlainToken_of_isMarkerToken
    {text : Text}
    (isToken : isMarkerToken text = true)
    (notEnded : ∀ start : Text, start.IsPlainToken → text ≠ start ++ "\n") :
    text.IsPlainToken := by
  rcases isMarkerToken_iff.1 isToken with
    ⟨start, ending, plain, rfl | rfl, text_eq⟩
  · rw [text_eq, List.append_nil]
    exact plain
  · exact absurd text_eq (notEnded start plain)

theorem ne_append_lineFeed
    {text : Text}
    (notLast : text.getLast? ≠ some (CodePoint.scalar '\n'))
    (start : Text) :
    text ≠ start ++ "\n" := by
  rintro rfl
  exact notLast List.getLast?_concat

/-! ## Written names -/

section

variable
    {token : MarkerToken}
    {marker : Marker}

/-- An identifier is written for the markers whose number is not negative and
not too long. -/
theorem exists_write_isIdentifier_iff
    (plain : token.text.IsPlainToken) :
    (∃ name, token.write marker = .ok name ∧ name.IsIdentifier) ↔
      0 ≤ marker.index ∧ marker.index < 10 ^ Numeral.longest := by
  have bounded_iff (positive : 0 ≤ marker.index) :
      marker.index < 10 ^ Numeral.longest ↔
        marker.index.natAbs < 10 ^ Numeral.longest := by
    rw [← Numeral.natCast_lt_ten_pow_iff, Int.natAbs_of_nonneg positive]
  constructor
  · rintro ⟨name, written, identifier⟩
    rcases write_eq_ok_iff.1 written with ⟨short, rfl⟩
    have positive := (isIdentifier_encode_iff plain marker).1 identifier
    exact ⟨positive, (bounded_iff positive).2 short⟩
  · rintro ⟨positive, bounded⟩
    exact ⟨token.encode marker,
      write_eq_ok_iff.2 ⟨(bounded_iff positive).1 bounded, rfl⟩,
      (isIdentifier_encode_iff plain marker).2 positive⟩

/-- A sentinel among other items of a select list is read as what it is. -/
theorem reads_among_iff
    {before after : List Text}
    {items items' read : List Item}
    (identifier : (token.encode marker).IsIdentifier)
    (readsBefore : List.Forall₂ ReadsItem before items)
    (readsAfter : List.Forall₂ ReadsItem after items') :
    Reads (List.intercalate ", " (before ++ sentinel token marker :: after))
        read ↔
      read = items ++ .labelled "1" (token.encode marker) :: items' :=
  reads_intercalate_iff
    (List.rel_append readsBefore
      (.cons (readsItem_of_isIdentifier identifier) readsAfter))

end

/--
Of the texts that are not a plain token with a line feed behind it, exactly
the plain tokens are tokens, and any other is refused.  A token of them gives
identifiers to the markers whose number is not negative and not too long to be
written, and to no others.  Such a name is the label of the marker's sentinel
in the probe query, and in a select list of any items it is read as one
identifier.
-/
theorem sentinels_are_identifiers
    {text : Text}
    (notEnded : ∀ start : Text, start.IsPlainToken → text ≠ start ++ "\n") :
    ((∃ token, ofText? text = some token) ↔ text.IsPlainToken) ∧
    (¬ text.IsPlainToken →
      ∀ draft : Draft, draft.locals.get? .wildcards = none →
        draft.wildcardsWith (fun supply => (text, supply)) =
          (.error (.invalidToken text), draft)) ∧
    ∀ token, ofText? text = some token → ∀ marker : Marker,
      ((∃ name, token.write marker = .ok name ∧ name.IsIdentifier) ↔
        0 ≤ marker.index ∧ marker.index < 10 ^ Numeral.longest) ∧
      ∀ name, token.write marker = .ok name → name.IsIdentifier →
        ∀ before after items items',
          List.Forall₂ ReadsItem before items →
          List.Forall₂ ReadsItem after items' →
          ∀ read,
            Reads
                (List.intercalate ", "
                  (before ++ sentinel token marker :: after)) read ↔
              read = items ++ .labelled "1" name :: items' := by
  have made_iff : (∃ token, ofText? text = some token) ↔ text.IsPlainToken := by
    constructor
    · intro made
      exact isPlainToken_of_isMarkerToken (exists_ofText?_iff.1 made) notEnded
    · exact exists_ofText?_of_isPlainToken
  refine ⟨made_iff, ?_, ?_⟩
  · intro notPlain draft absent
    refine Draft.wildcardsWith_of_refused absent ?_
    rw [Option.eq_none_iff_forall_not_mem]
    intro token made
    exact notPlain (made_iff.1 ⟨token, made⟩)
  · intro token made marker
    have plain : token.text.IsPlainToken := by
      rw [ofText?_eq_some_iff.1 made]
      exact made_iff.1 ⟨token, made⟩
    refine ⟨exists_write_isIdentifier_iff plain, ?_⟩
    intro name written identifier before after items items' readsBefore
      readsAfter read
    rcases write_eq_ok_iff.1 written with ⟨_, rfl⟩
    exact reads_among_iff identifier readsBefore readsAfter

/-- A sentinel between two columns, and a text that begins with a digit. -/
theorem sentinels_are_identifiers_between_columns :
    (∀ start : Text,
      start.IsPlainToken → Text.ofString "wc0f" ≠ start ++ "\n") ∧
    (∃ name,
      MarkerToken.write ⟨"wc0f", by decide⟩ ⟨12, true⟩ = .ok name ∧
        name.IsIdentifier) ∧
    (∀ read,
      Reads "\"id\", 1 AS wc0f_12_b, \"u\".\"name\"" read ↔
        read =
          [.path ["id"], .labelled "1" "wc0f_12_b", .path ["u", "name"]]) ∧
    (∀ start : Text,
      start.IsPlainToken → Text.ofString "1abc" ≠ start ++ "\n") ∧
    Draft.wildcardsWith { supply := ⟨"0f", []⟩ }
        (fun supply => ("1abc", supply)) =
      (.error (.invalidToken "1abc"), { supply := ⟨"0f", []⟩ }) := by
  let token : MarkerToken := ⟨"wc0f", by decide⟩
  let marker : Marker := ⟨12, true⟩
  have notEnded :
      ∀ start : Text,
        start.IsPlainToken → Text.ofString "wc0f" ≠ start ++ "\n" :=
    fun start _ => ne_append_lineFeed (by decide) start
  have notEnded' :
      ∀ start : Text,
        start.IsPlainToken → Text.ofString "1abc" ≠ start ++ "\n" :=
    fun start _ => ne_append_lineFeed (by decide) start
  have digitFirst : ¬ Text.IsPlainToken "1abc" := by
    rintro ⟨⟨_, ⟨⟩, letter⟩, _⟩
    cases letter
  have bounded : marker.index < 10 ^ Numeral.longest :=
    Numeral.natCast_lt_ten_pow_iff.2
      (Nat.lt_of_lt_of_le (by decide : 12 < 10 ^ 2)
        (Nat.pow_le_pow_right (by decide) (by decide)))
  rcases (sentinels_are_identifiers notEnded).2.2 token token.ofText?_text
      marker with
    ⟨writes_iff, reads_iff⟩
  have writes := writes_iff.2 ⟨by decide, bounded⟩
  refine ⟨notEnded, writes, ?_, notEnded',
    (sentinels_are_identifiers notEnded').2.1 digitFirst _ rfl⟩
  rcases writes with ⟨name, written, identifier⟩
  have text_eq :
      List.intercalate ", "
          ([Sqlite.quote "id"] ++ sentinel token marker ::
            [Sqlite.quote "u" ++ ("." ++ Sqlite.quote "name")]) =
        ("\"id\", 1 AS wc0f_12_b, \"u\".\"name\"" : Text) := by
    decide +kernel
  have name_eq : name = ("wc0f_12_b" : Text) := by
    rw [(write_eq_ok_iff.1 written).2]
    decide +kernel
  have among := reads_iff name written identifier _ _ _ _
    (.cons (.path (.last (Sqlite.readsIdentifier_quote "id"))) .nil)
    (.cons (.path (.qualified (Sqlite.readsIdentifier_quote "u")
      (.last (Sqlite.readsIdentifier_quote "name")))) .nil)
  rw [text_eq, name_eq] at among
  exact among

/-- The name of a negative number has a minus sign, and that of a number with
too many digits is not written.  A text is a token with a line feed behind it
too. -/
theorem write_not_identifier :
    (MarkerToken.write ⟨"wc00", by decide⟩ ⟨-1, true⟩ = .ok "wc00_-1_b" ∧
      ¬ Text.IsIdentifier "wc00_-1_b") ∧
    MarkerToken.write ⟨"wc00", by decide⟩ ⟨10 ^ Numeral.longest, true⟩ =
      .error .tooLong ∧
    ((∃ token, ofText? "wc00\n" = some token) ∧
      ¬ Text.IsPlainToken "wc00\n") := by
  refine ⟨⟨?_, ?_⟩, ?_, ?_, ?_⟩
  · refine write_eq_ok_iff.2 ⟨?_, by decide +kernel⟩
    exact Nat.one_lt_pow (by decide) (by decide)
  · intro identifier
    have sign := identifier.points (CodePoint.scalar '-') (by decide)
    cases sign
  · refine write_eq_error_iff.2 ?_
    have positive : (10 : Int).natAbs = 10 := rfl
    rw [Int.natAbs_pow, positive]
  · exact exists_ofText?_iff.2 (by decide)
  · intro plain
    have lineFeed := plain.points (CodePoint.scalar '\n') (by decide)
    cases lineFeed

end Wildcard.MarkerToken

end AnnotatedSql
