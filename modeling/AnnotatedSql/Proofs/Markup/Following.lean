import AnnotatedSql.Proofs.Markup.Pieces

/-!
# When more follows

A lexer looks ahead: a name, a text and a close tag end where something
follows that does not belong to them.  Markup does not belong to any of them.
So a piece that has been read in front of the end of a document is read in
front of markup as well, and what has been read of a document stays the same
when markup is put behind the document.
-/

namespace AnnotatedSql.Markup

/-! ## In front of markup -/

/-- A text that begins with markup. -/
def StartsMarkup (text : Text) : Prop :=
  ∃ markup, text = CodePoint.scalar '<' :: markup ∧ beginsMarkup markup = true

/-- Runs of code points end in front of a mark that does not belong to
them. -/
theorem takeWhile_append_mark
    {belongs : CodePoint → Bool}
    {mark : CodePoint}
    (refused : belongs mark = false)
    (text more : Text) :
    (text ++ mark :: more).takeWhile belongs = text.takeWhile belongs ∧
      (text ++ mark :: more).dropWhile belongs =
        text.dropWhile belongs ++ mark :: more := by
  induction text with
  | nil => simp [refused]
  | cons first text induction_hypothesis =>
      rw [List.cons_append, List.takeWhile_cons, List.takeWhile_cons,
        List.dropWhile_cons, List.dropWhile_cons, induction_hypothesis.1,
        induction_hypothesis.2]
      cases belongs first <;> exact ⟨rfl, rfl⟩

section

variable
    {text more name rest : Text}

theorem nameAtStart?_append_of_some
    (starts : StartsMarkup more)
    (found : nameAtStart? text = some (name, rest)) :
    nameAtStart? (text ++ more) = some (name, rest ++ more) := by
  rcases starts with ⟨markup, rfl, _⟩
  cases text with
  | nil => cases found
  | cons first text =>
      have notPart : isNamePart '<' = false := by
        decide
      have ends := takeWhile_append_mark notPart text markup
      rw [nameAtStart?] at found
      split at found
      · next isStart =>
        cases found
        rw [List.cons_append, nameAtStart?, if_pos isStart, ends.1, ends.2]
      · cases found

theorem closeTagAtStart?_append_of_some
    (starts : StartsMarkup more)
    (found : closeTagAtStart? text = some (name, rest)) :
    closeTagAtStart? (text ++ more) = some (name, rest ++ more) := by
  have trim_eq (text : Text) :
      Text.trimStart (text ++ more) = Text.trimStart text ++ more := by
    rcases starts with ⟨markup, rfl, _⟩
    exact (takeWhile_append_mark rfl text markup).2
  simp only [closeTagAtStart?, bind, Option.bind_eq_some_iff, Prod.exists]
    at found ⊢
  rcases found with
    ⟨inside, opened, name', afterName, named, rest', closed, found⟩
  cases found
  refine ⟨inside ++ more, Text.after?_append_of_some opened more, name,
    afterName ++ more, ?_, rest ++ more, ?_, rfl⟩
  · rw [trim_eq]
    exact nameAtStart?_append_of_some starts named
  · rw [trim_eq]
    exact Text.after?_append_of_some closed more

/-- Markup does not make markup of a mark in front of it. -/
theorem beginsMarkup_append
    (starts : StartsMarkup more) :
    beginsMarkup (text ++ more) = beginsMarkup text := by
  rcases starts with ⟨markup, rfl, _⟩
  rw [beginsMarkup, beginsMarkup, Text.after?_append_mark (by decide),
    Text.after?_append_mark (by decide), Option.isSome_map, Option.isSome_map]
  cases text <;> rfl

/-- A run of text ends in front of markup. -/
theorem textRun_append_of_startsMarkup
    (starts : StartsMarkup more) :
    textRun (text ++ more) = ((textRun text).1, (textRun text).2 ++ more) := by
  induction text with
  | nil =>
      rcases starts with ⟨markup, rfl, begins⟩
      exact textRun_of_beginsMarkup begins
  | cons first text induction_hypothesis =>
      rw [List.cons_append, textRun, textRun, beginsMarkup_append starts,
        induction_hypothesis]
      split <;> rfl

end

/-! ## Reading on -/

/-- A lexer with more of the document behind what is left. -/
def Lexer.followedBy
    (lexer : Lexer)
    (more : Text) : Lexer :=
  { lexer with rest := lexer.rest ++ more }

/-- A piece that is read with more of the document behind it. -/
def Reading.followedBy
    (more : Text) : Reading → Reading
  | .finished => .finished
  | .skipped next => .skipped (next.followedBy more)
  | .token found next => .token found (next.followedBy more)
  | .failed error next => .failed error (next.followedBy more)

namespace Lexer

variable
    {lexer next last : Lexer}
    {tokens : List Token}
    {more : Text}
    {line : Nat}

@[simp]
theorem followedBy_decoded
    (symbol : Text → Symbol)
    (value : Text)
    (line : Nat)
    (next : Lexer) :
    (decoded symbol value line next).followedBy more =
      decoded symbol value line (next.followedBy more) := by
  unfold decoded
  split <;> rfl

theorem advanceContent_append
    (starts : StartsMarkup more)
    {text : Text}
    (read : (advanceContent line text).next? = some next) :
    advanceContent line (text ++ more) =
      (advanceContent line text).followedBy more := by
  have piece := contentPiece_advanceContent line text
  rw [← contentPiece_iff]
  generalize advanceContent line text = reading at read piece ⊢
  cases piece with
  | finished => exact nomatch read
  | enclosed kind cut =>
      have cut := Text.cutAtFirst?_append_of_some cut more
      rw [List.append_assoc]
      cases kind with
      | comment => exact .enclosed .comment cut
      | declaration => exact .enclosed .declaration cut
      | verbatim => exact .enclosed .verbatim cut
  | closeTag found =>
      have found := closeTagAtStart?_append_of_some starts found
      rw [List.append_assoc] at found ⊢
      exact .closeTag found
  | openTag found => exact .openTag (nameAtStart?_append_of_some starts found)
  | @text _ run rest first found =>
      rw [followedBy_decoded]
      refine .text ?_
      rw [textRun_append_of_startsMarkup starts, found]
  | unclosed unclosed => exact nomatch read

theorem advanceStartTag_append
    (starts : StartsMarkup more)
    {text : Text}
    (read : (advanceStartTag line text).next? = some next) :
    advanceStartTag line (text ++ more) =
      (advanceStartTag line text).followedBy more := by
  have piece := startTagPiece_advanceStartTag line text
  rw [← startTagPiece_iff]
  generalize advanceStartTag line text = reading at read piece ⊢
  cases piece with
  | finished => exact nomatch read
  | space isSpace => exact .space isSpace
  | lineFeed => exact .lineFeed
  | selfClose =>
      rw [List.append_assoc]
      exact .selfClose
  | tagEnd => exact .tagEnd
  | equals => exact .equals
  | name found => exact .name (nameAtStart?_append_of_some starts found)
  | string isQuote cut =>
      rw [followedBy_decoded]
      exact .string isQuote (Text.cutAtFirst?_append_of_some cut more)
  | illegal illegal => exact nomatch read

/-- A piece is read alike when markup follows the document. -/
theorem advance_followedBy
    (starts : StartsMarkup more)
    (read : lexer.advance.next? = some next) :
    (lexer.followedBy more).advance = lexer.advance.followedBy more := by
  rcases lexer with ⟨rest, mode, line⟩
  cases mode with
  | content => exact advanceContent_append starts read
  | startTag => exact advanceStartTag_append starts read

/-- What has been read stays the same when markup follows the document. -/
theorem Reads.followedBy
    (starts : StartsMarkup more)
    (read : Reads lexer tokens last) :
    Reads (lexer.followedBy more) tokens (last.followedBy more) := by
  induction read with
  | here lexer => exact .here _
  | skip step others induction_hypothesis =>
      refine .skip ?_ induction_hypothesis
      rw [advance_followedBy starts (by rw [step]; rfl), step]
      rfl
  | token step others induction_hypothesis =>
      refine .token ?_ induction_hypothesis
      rw [advance_followedBy starts (by rw [step]; rfl), step]
      rfl

/-- A run without a fault has read all tokens, up to the end. -/
theorem reads_of_run
    (lexer : Lexer)
    {tokens : List Token}
    {last : Lexer}
    (run_eq : lexer.run = (tokens, none, last)) :
    Reads lexer tokens last ∧ last.advance = .finished := by
  cases step : lexer.advance with
  | finished =>
      rw [run_of_finished step] at run_eq
      cases run_eq
      exact ⟨.here _, step⟩
  | skipped following =>
      rw [(Reads.of_skipped step).run_eq] at run_eq
      rcases reads_of_run following run_eq with ⟨read, finished⟩
      exact ⟨.skip step read, finished⟩
  | token token following =>
      rw [(Reads.of_token step).run_eq] at run_eq
      rcases run : following.run with ⟨others, fault, last'⟩
      rw [run] at run_eq
      cases run_eq
      rcases reads_of_run following run with ⟨read, finished⟩
      exact ⟨.token step read, finished⟩
  | failed error following =>
      rw [run_of_failed step] at run_eq
      cases run_eq
termination_by lexer.rest.length
decreasing_by all_goals exact length_lt_of_advance (by simp [*, Reading.next?])

end Lexer

end AnnotatedSql.Markup
