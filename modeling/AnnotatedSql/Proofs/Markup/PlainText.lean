import AnnotatedSql.Proofs.Markup.References
import AnnotatedSql.Proofs.Markup.Seam

/-!
# Text without markup

The mark `<` is text unless what follows it begins a name, a close tag, a
declaration, a comment or character data.  A document of which every mark is
text is one run of text, and no other document is read as a single token of
what it is decoded to: a section that is passed over is missing in the token,
and so are the marks of character data.

Markup that has begun has to be complete.  At any place of the content, a
comment, a declaration or character data without its end, and a close tag that
is none, are the only faults besides bad references.  Wherever there is no
fault, the lexer takes something off the document.
-/

namespace AnnotatedSql

namespace Markup

/-! ## Marks that are text -/

/-- What follows a mark that is text. -/
structure FollowsPlainMark (after : Text) : Prop where
  noName : ∀ point ∈ after.head?, point.isAsciiLetter = false ∧ point ≠ '_'
  noCloseTag : ∀ point ∈ after.head?, point ≠ '/'
  noDeclaration : ∀ point ∈ after.head?, point ≠ '?'
  noComment : ¬ ("!--" : Text) <+: after
  noVerbatim : ¬ ("![CDATA[" : Text) <+: after

@[simp]
theorem followsPlainMark_iff
    {after : Text} :
    FollowsPlainMark after ↔ beginsMarkup after = false := by
  have noWord (word : Text) :
      (Text.after? word after).isSome = false ↔ ¬ word <+: after := by
    rw [← Bool.not_eq_true, not_iff_not, Option.isSome_iff_exists]
    exact exists_congr fun rest => Text.after?_eq_some_iff.trans eq_comm
  have noHead :
      (after.head?.any fun first =>
        isNameStart first || first = '/' || first = '?') = false ↔
      ∀ point ∈ after.head?,
        ((point.isAsciiLetter = false ∧ point ≠ '_') ∧ point ≠ '/') ∧
          point ≠ '?' := by
    simp only [Option.any_eq_false, isNameStart, Option.mem_def,
      Bool.or_eq_false_iff, decide_eq_false_iff_not, ne_eq]
  rw [beginsMarkup, Bool.or_eq_false_iff, Bool.or_eq_false_iff, noWord, noWord,
    noHead]
  constructor
  · rintro ⟨noName, noCloseTag, noDeclaration, noComment, noVerbatim⟩
    exact ⟨⟨fun point first => ⟨⟨noName point first, noCloseTag point first⟩,
      noDeclaration point first⟩, noComment⟩, noVerbatim⟩
  · rintro ⟨⟨plain, noComment⟩, noVerbatim⟩
    exact ⟨fun point first => (plain point first).1.1,
      fun point first => (plain point first).1.2,
      fun point first => (plain point first).2, noComment, noVerbatim⟩

/-- Every mark of a text is text. -/
def Unmarked (text : Text) : Prop :=
  ∀ before after,
    text = before ++ CodePoint.scalar '<' :: after → FollowsPlainMark after

@[simp]
theorem unmarked_cons_iff
    {first : CodePoint}
    {text : Text} :
    Unmarked (first :: text) ↔
      (first = '<' → FollowsPlainMark text) ∧ Unmarked text := by
  constructor
  · intro unmarked
    constructor
    · rintro rfl
      exact unmarked [] text rfl
    · rintro before after rfl
      exact unmarked (first :: before) after rfl
  · rintro ⟨here, others⟩ before after text_eq
    cases before with
    | nil =>
        cases text_eq
        exact here rfl
    | cons first' before =>
        cases text_eq
        exact others before after rfl

/-- A text is a single run exactly if all its marks are text. -/
@[simp]
theorem textRun_eq_iff_unmarked
    {text : Text} :
    textRun text = (text, []) ↔ Unmarked text := by
  induction text with
  | nil =>
      refine iff_of_true rfl ?_
      intro before after text_eq
      simp at text_eq
  | cons first text induction_hypothesis =>
      rw [unmarked_cons_iff, ← induction_hypothesis, followsPlainMark_iff,
        textRun]
      split
      · next isMark =>
        refine iff_of_false (by simp) ?_
        rintro ⟨plain, _⟩
        have begins := isMark.2
        rw [plain isMark.1] at begins
        cases begins
      · next notMark =>
        have plain : first = '<' → beginsMarkup text = false := by
          intro isMark
          rw [← Bool.not_eq_true]
          exact fun begins => notMark ⟨isMark, begins⟩
        rw [and_iff_right plain, Prod.ext_iff, Prod.ext_iff, List.cons.injEq,
          and_iff_right rfl]

/-- A run of text ends where the document does, or in front of a mark. -/
theorem textRun_snd (text : Text) :
    (textRun text).2 = [] ∨
      ∃ after, (textRun text).2 = CodePoint.scalar '<' :: after := by
  induction text with
  | nil => exact .inl rfl
  | cons first text induction_hypothesis =>
      rw [textRun]
      split
      · next isMark =>
        rw [isMark.1]
        exact .inr ⟨text, rfl⟩
      · exact induction_hypothesis

/-! ## Complete close tags -/

/-- A close tag as it stands in a document. -/
def IsCloseTag (source : Text) : Prop :=
  ∃ name, IsName name ∧ (Symbol.closeTag name).IsSpelledBy source

/-- Space does not continue a name. -/
theorem isNamePart_eq_false_of_isBlank
    {point : CodePoint}
    (blank : point.isBlank = true) :
    isNamePart point = false := by
  have no_part : ∀ point ∈ CodePoint.blankPoints, isNamePart point = false := by
    decide +kernel
  exact no_part point (CodePoint.mem_blankPoints_of_isBlank blank)

theorem closeTagAtStart?_append
    {before name after : Text}
    (isName : IsName name)
    (before_blank : before.isBlank = true)
    (after_blank : after.isBlank = true)
    (rest : Text) :
    closeTagAtStart? ("</" ++ before ++ name ++ after ++ ">" ++ rest) =
      some (name, rest) := by
  rw [Text.isBlank, List.all_eq_true] at before_blank after_blank
  have text_eq : ("</" : Text) ++ before ++ name ++ after ++ ">" ++ rest =
      "</" ++ (before ++ (name ++ (after ++ (">" ++ rest)))) := by
    simp only [List.append_assoc]
  have name_visible : ∀ point ∈ (name ++ (after ++ (">" ++ rest))).head?,
      point.isBlank = false := by
    cases name with
    | nil => exact isName.elim
    | cons first name =>
        rintro point ⟨rfl⟩
        exact isBlank_eq_false_of_isNameStart isName.1
  have mark_visible : ∀ point ∈ ((">" : Text) ++ rest).head?,
      point.isBlank = false := by
    rintro point ⟨rfl⟩
    rfl
  have ends : EndsName (after ++ (">" ++ rest)) := by
    cases after with
    | nil => exact .of_mark rfl rest
    | cons first after =>
        exact .of_mark (isNamePart_eq_false_of_isBlank
          (after_blank first List.mem_cons_self)) _
  have name_found := nameAtStart?_append isName ends
  have inside_eq : Text.trimStart
      (before ++ (name ++ (after ++ (">" ++ rest)))) =
        name ++ (after ++ (">" ++ rest)) :=
    Text.dropWhile_append_of_run before_blank name_visible
  have after_eq : Text.trimStart (after ++ (">" ++ rest)) = ">" ++ rest :=
    Text.dropWhile_append_of_run after_blank mark_visible
  simp only [text_eq, closeTagAtStart?, Text.after?_append, inside_eq,
    name_found, after_eq, bind, Option.bind_some, pure]

theorem isName_of_closeTagAtStart?
    {text name rest : Text}
    (found : closeTagAtStart? text = some (name, rest)) :
    IsName name := by
  simp only [closeTagAtStart?, bind, Option.bind_eq_some_iff, Prod.exists,
    pure, Option.some.injEq, Prod.mk.injEq] at found
  rcases found with ⟨_, _, name', _, named, _, _, rfl, _⟩
  exact (append_of_nameAtStart? named).2

/-- A lexer finds no close tag exactly where none stands. -/
theorem closeTagAtStart?_eq_none_iff
    {text : Text} :
    closeTagAtStart? text = none ↔
      ∀ source rest, IsCloseTag source → text ≠ source ++ rest := by
  constructor
  · rintro missing source rest
      ⟨name, isName, before, after, before_blank, after_blank, rfl⟩ rfl
    rw [closeTagAtStart?_append isName before_blank after_blank] at missing
    cases missing
  · intro noCloseTag
    rw [Option.eq_none_iff_forall_ne_some]
    rintro ⟨name, rest⟩ found
    rcases append_of_closeTagAtStart? found with ⟨source, text_eq, spelled⟩
    exact noCloseTag source rest
      ⟨name, isName_of_closeTagAtStart? found, spelled⟩ text_eq

/-! ## Markup without an end -/

/-- A place of the content holds markup that does not end: the end of a
section is not written behind its opening, or a close tag is not complete. -/
inductive Unterminated : Text → Prop where
  | enclosed
      (kind : SectionKind)
      {body : Text}
      (endless : ¬ kind.closing <:+: body) :
      Unterminated (kind.opening ++ body)
  | closeTag
      {body : Text}
      (incomplete : ∀ source rest,
        IsCloseTag source → ("</" : Text) ++ body ≠ source ++ rest) :
      Unterminated (("</" : Text) ++ body)

theorem unterminated_iff_unclosed
    {text : Text} :
    Unterminated text ↔ Unclosed text := by
  constructor
  · rintro (⟨kind, endless⟩ | incomplete)
    · exact .enclosed kind (Text.cutAtFirst?_eq_none_iff.2 endless)
    · exact .closeTag (closeTagAtStart?_eq_none_iff.2 incomplete)
  · rintro (⟨kind, uncut⟩ | missing)
    · exact .enclosed kind (Text.cutAtFirst?_eq_none_iff.1 uncut)
    · exact .closeTag (closeTagAtStart?_eq_none_iff.1 missing)

namespace Lexer

/-- A fault is markup without its end, or a bad reference in a run of text
that is taken off. -/
theorem cases_of_failed
    {line : Nat}
    {text : Text}
    {error : Error}
    {next : Lexer}
    (piece : ContentPiece line text (.failed error next)) :
    Unterminated text ∨
      ∃ run spelling,
        run ≠ [] ∧ text = run ++ next.rest ∧
          error = .invalidReference spelling := by
  generalize reading_eq : Reading.failed error next = reading at piece
  cases piece with
  | finished => cases reading_eq
  | enclosed kind cut => cases kind <;> cases reading_eq
  | closeTag found => cases reading_eq
  | openTag found => cases reading_eq
  | @text _ run rest first found =>
      unfold decoded at reading_eq
      split at reading_eq
      · cases reading_eq
      · next error refused =>
        cases reading_eq
        have joined := append_of_textRun text
        rw [found] at joined
        rcases exists_invalidReference_of_decodeReferences refused with
          ⟨spelling, error_eq⟩
        exact .inr ⟨first :: run, spelling, List.cons_ne_nil _ _,
          joined.symm, error_eq⟩
  | unclosed unclosed => exact .inl (unterminated_iff_unclosed.2 unclosed)

section

variable
    {lexer : Lexer}

theorem contentPiece_of_inContent
    (inContent : lexer.mode = .content) :
    ContentPiece lexer.line lexer.rest lexer.advance := by
  rw [advance, inContent]
  exact contentPiece_advanceContent lexer.line lexer.rest

theorem advance_of_unterminated
    (inContent : lexer.mode = .content)
    (unterminated : Unterminated lexer.rest) :
    lexer.advance =
      .failed (.illegalMarkup (lexer.rest.take 10) lexer.line) lexer := by
  rcases lexer with ⟨rest, mode, line⟩
  cases inContent
  exact advanceContent_of_unclosed (unterminated_iff_unclosed.1 unterminated)

/-- Where markup is not without its end, something is taken off. -/
theorem exists_consumed
    (inContent : lexer.mode = .content)
    (notAtEnd : lexer.rest ≠ [])
    (terminated : ¬ Unterminated lexer.rest) :
    ∃ consumed next,
      consumed ≠ [] ∧ lexer.rest = consumed ++ next.rest ∧
        (lexer.advance = .skipped next ∨
          (∃ token, lexer.advance = .token token next) ∨
          ∃ spelling,
            lexer.advance = .failed (.invalidReference spelling) next) := by
  have piece := contentPiece_of_inContent inContent
  have taken := takesOffReading_advance lexer
  cases step : lexer.advance with
  | finished =>
      rw [step] at taken
      exact absurd taken notAtEnd
  | skipped next =>
      rw [step] at taken
      rcases taken with ⟨source, taken⟩
      exact ⟨source, next, taken.nonempty, taken.rest_eq, .inl rfl⟩
  | token token next =>
      rw [step] at taken
      rcases taken with ⟨source, taken⟩
      exact ⟨source, next, taken.nonempty, taken.rest_eq,
        .inr (.inl ⟨token, rfl⟩)⟩
  | failed error next =>
      rw [step] at piece
      rcases cases_of_failed piece with
        unterminated | ⟨run, spelling, nonempty, rest_eq, rfl⟩
      · exact absurd unterminated terminated
      · exact ⟨run, next, nonempty, rest_eq, .inr (.inr ⟨spelling, rfl⟩)⟩

/-- The markup itself is at fault exactly where it is without its end. -/
theorem exists_failed_iff_unterminated
    (inContent : lexer.mode = .content)
    (notAtEnd : lexer.rest ≠ []) :
    (∃ error next,
      lexer.advance = .failed error next ∧
        ∀ spelling, error ≠ .invalidReference spelling) ↔
      Unterminated lexer.rest := by
  constructor
  · rintro ⟨error, next, failed, notReference⟩
    by_contra terminated
    rcases exists_consumed inContent notAtEnd terminated with
      ⟨_, next', _, _, skipped | ⟨token, found⟩ | ⟨spelling, refused⟩⟩
    · exact nomatch failed.symm.trans skipped
    · exact nomatch failed.symm.trans found
    · cases failed.symm.trans refused
      exact notReference spelling rfl
  · intro unterminated
    exact ⟨_, _, advance_of_unterminated inContent unterminated, nofun⟩

end

/-! ## A single text -/

/-- What is passed over is a section. -/
theorem exists_section_of_skipped
    {line : Nat}
    {text : Text}
    {next : Lexer}
    (piece : ContentPiece line text (.skipped next)) :
    next.mode = .content ∧
      ∃ (kind : SectionKind) (inside : Text),
        text = kind.opening ++ (inside ++ (kind.closing ++ next.rest)) := by
  generalize reading_eq : Reading.skipped next = reading at piece
  cases piece with
  | finished => cases reading_eq
  | @enclosed kind body inside rest cut =>
      have text_eq := Text.append_of_cutAtFirst? cut
      rw [List.append_assoc] at text_eq
      cases kind with
      | comment =>
          cases reading_eq
          exact ⟨rfl, .comment, inside, by rw [text_eq]⟩
      | declaration =>
          cases reading_eq
          exact ⟨rfl, .declaration, inside, by rw [text_eq]⟩
      | verbatim => cases reading_eq
  | closeTag found => cases reading_eq
  | openTag found => cases reading_eq
  | @text _ run rest first found =>
      unfold decoded at reading_eq
      split at reading_eq <;> cases reading_eq
  | unclosed unclosed => cases reading_eq

/-- A text is the inside of character data, which does not hold its end, or a
run that is decoded. -/
theorem cases_of_text
    {line line' : Nat}
    {text value : Text}
    {next : Lexer}
    (piece : ContentPiece line text (.token ⟨.text value, line'⟩ next)) :
    (¬ ("]]>" : Text) <:+: value ∧
      ∃ rest, text = "<![CDATA[" ++ (value ++ ("]]>" ++ rest))) ∨
    ∃ run,
      textRun text = (run, next.rest) ∧ decodeReferences run = .ok value := by
  generalize reading_eq :
    Reading.token ⟨.text value, line'⟩ next = reading at piece
  cases piece with
  | finished => cases reading_eq
  | @enclosed kind body inside rest cut =>
      have text_eq := Text.append_of_cutAtFirst? cut
      rw [List.append_assoc] at text_eq
      cases kind with
      | comment => cases reading_eq
      | declaration => cases reading_eq
      | verbatim =>
          cases reading_eq
          exact .inl ⟨Text.not_infix_of_cutAtFirst? (by decide) cut, rest,
            by rw [text_eq]; rfl⟩
  | closeTag found => cases reading_eq
  | openTag found => cases reading_eq
  | @text _ run rest first found =>
      unfold decoded at reading_eq
      split at reading_eq
      · next decoded decoded_eq =>
        cases reading_eq
        exact .inr ⟨first :: run, found, decoded_eq⟩
      · cases reading_eq
  | unclosed unclosed => cases reading_eq

theorem severs_lessThan : Severs '<' :=
  severs_of_not_mem rfl rfl (by decide)

theorem severs_greaterThan : Severs '>' :=
  severs_of_not_mem rfl rfl (by decide)

theorem severs_closingBracket : Severs ']' :=
  severs_of_not_mem rfl rfl (by decide)

theorem exists_closing_eq (kind : SectionKind) :
    ∃ stem, kind.closing = stem ++ [CodePoint.scalar '>'] := by
  cases kind with
  | comment => exact ⟨"--", rfl⟩
  | declaration => exact ⟨"?", rfl⟩
  | verbatim => exact ⟨"]]", rfl⟩

/-- If a single text is all that is read, and it ends with what the rest of
the document is decoded to, then the rest is a single run, and the text is
nothing more: every section in front or behind adds at least its marks, and
character data does not hold its own end. -/
theorem Reads.textRun_eq_of_text
    {lexer last : Lexer}
    {line : Nat}
    {value more decoded : Text}
    (read : Reads lexer [⟨.text value, line⟩] last)
    (inContent : lexer.mode = .content)
    (decoded_eq : decodeReferences lexer.rest = .ok decoded)
    (value_eq : value = more ++ decoded) :
    more = [] ∧ textRun lexer.rest = (lexer.rest, []) := by
  generalize tokens_eq : [Token.mk (.text value) line] = tokens at read
  induction read generalizing more decoded with
  | here => cases tokens_eq
  | @skip lexer following last tokens step others induction_hypothesis =>
      have piece := contentPiece_of_inContent inContent
      rw [step] at piece
      rcases exists_section_of_skipped piece with
        ⟨inContent', kind, inside, rest_eq⟩
      rcases exists_closing_eq kind with ⟨stem, closing_eq⟩
      have seam : lexer.rest =
          (kind.opening ++ inside ++ stem) ++
            CodePoint.scalar '>' :: following.rest := by
        rw [rest_eq, closing_eq]
        simp only [List.append_assoc, List.cons_append, List.nil_append]
      rw [seam] at decoded_eq
      rcases severs_greaterThan.exists_of_decodeReferences_append
        decoded_eq with ⟨before, decoded', _, decoded'_eq, rfl⟩
      have shifted : value =
          (more ++ before ++ [CodePoint.scalar '>']) ++ decoded' := by
        rw [value_eq]
        simp only [List.append_assoc, List.cons_append, List.nil_append]
      have nothing :=
        (induction_hypothesis inContent' decoded'_eq shifted tokens_eq).1
      simp at nothing
  | @token lexer following last token tokens step others _ =>
      cases tokens_eq
      have piece := contentPiece_of_inContent inContent
      rw [step] at piece
      rcases cases_of_text piece with
        ⟨notIn, rest, rest_eq⟩ | ⟨run, run_eq, value'_eq⟩
      · -- The rest is decoded to a text that holds the end of the section.
        have seam : lexer.rest =
            ("<![CDATA[" ++ value) ++ CodePoint.scalar ']' ::
              ([] ++ CodePoint.scalar ']' ::
                ([] ++ CodePoint.scalar '>' :: rest)) := by
          rw [rest_eq, List.append_assoc]
          rfl
        rw [seam] at decoded_eq
        rcases severs_closingBracket.exists_of_decodeReferences_append
          decoded_eq with ⟨before, _, _, second_eq, rfl⟩
        rcases severs_closingBracket.exists_of_decodeReferences_append
          second_eq with ⟨_, _, nothing, third_eq, rfl⟩
        rcases severs_greaterThan.exists_of_decodeReferences_append
          third_eq with ⟨_, later, nothing', _, rfl⟩
        rw [decodeReferences] at nothing nothing'
        cases nothing
        cases nothing'
        refine absurd ⟨more ++ before, later, ?_⟩ notIn
        rw [value_eq]
        simp only [List.append_assoc]
        rfl
      · have joined := append_of_textRun lexer.rest
        rw [run_eq] at joined
        rcases textRun_snd lexer.rest with atEnd | ⟨after, goesOn⟩
        · rw [run_eq] at atEnd
          simp only at atEnd joined
          rw [atEnd, List.append_nil] at joined
          rw [← joined, value'_eq] at decoded_eq
          cases decoded_eq
          rw [run_eq, atEnd, joined]
          exact ⟨List.self_eq_append_left.1 value_eq, rfl⟩
        · -- The mark behind the run makes the rest longer than the text.
          rw [run_eq] at goesOn
          simp only at goesOn joined
          rw [← joined, goesOn] at decoded_eq
          rcases severs_lessThan.exists_of_decodeReferences_append
            decoded_eq with ⟨before, later, before_eq, _, rfl⟩
          rw [value'_eq] at before_eq
          cases before_eq
          have lengths := congrArg List.length value_eq
          simp only [List.length_append, List.length_cons] at lengths
          omega

section

variable
    {text decoded : Text}

theorem tokenize_of_unmarked
    (nonempty : text ≠ [])
    (decoded_eq : decodeReferences text = .ok decoded)
    (unmarked : Unmarked text)
    (lexer : Lexer) :
    (lexer.tokenize text).1 = .ok [⟨.text decoded, 1⟩] := by
  cases text with
  | nil => exact absurd rfl nonempty
  | cons first text =>
      have found := textRun_eq_iff_unmarked.2 unmarked
      have step : advance ⟨first :: text, .content, 1⟩ = _ :=
        advanceContent_of_text found
      rw [Lexer.decoded, decoded_eq] at step
      exact (Reads.of_token step).tokenize_eq

theorem unmarked_of_tokenize
    {lexer : Lexer}
    {line : Nat}
    (decoded_eq : decodeReferences text = .ok decoded)
    (tokenized : (lexer.tokenize text).1 = .ok [⟨.text decoded, line⟩]) :
    Unmarked text := by
  cases outcome : lexer.tokenize text with
  | mk tokens behind =>
      rw [outcome] at tokenized
      cases tokenized
      have read := (reads_of_tokenize outcome).1
      exact textRun_eq_iff_unmarked.1
        (read.textRun_eq_of_text rfl decoded_eq (List.nil_append _).symm).2

end

end Lexer

/-- A document with a single text is that text. -/
theorem Parser.parse_of_unmarked
    {text decoded : Text}
    (nonempty : text ≠ [])
    (decoded_eq : decodeReferences text = .ok decoded)
    (unmarked : Unmarked text)
    (parser : Parser) :
    (parser.parse text).1 = .ok [.text decoded] :=
  (parse_eq_ok_iff_of_tokenize
    (Lexer.tokenize_of_unmarked nonempty decoded_eq unmarked parser.lexer)
    _).2 rfl

/--
Text without markup is one run, and nothing else is read as one.  A text whose
references are good is read as a single token of what it is decoded to, on the
first line, and as a single node, if no mark is followed by what begins
markup; if one is, it is not read as that token.  And at every place of the
content before the end, in whatever document, the lexer fails for another
reason than a bad reference exactly if there stands markup without its end.
It reports the first ten code points there and stays.  At any other place it
takes at least one code point off.
-/
theorem plain_text_is_one_token
    (lexer : Lexer)
    (parser : Parser) :
    (∀ text decoded : Text,
      text ≠ [] →
      decodeReferences text = .ok decoded →
      ((∃ line, (lexer.tokenize text).1 = .ok [⟨.text decoded, line⟩]) ↔
        Unmarked text) ∧
      (Unmarked text →
        (lexer.tokenize text).1 = .ok [⟨.text decoded, 1⟩] ∧
          (parser.parse text).1 = .ok [.text decoded])) ∧
    ∀ place : Lexer,
      place.mode = .content →
      place.rest ≠ [] →
      ((∃ error next,
        place.advance = .failed error next ∧
          ∀ spelling, error ≠ .invalidReference spelling) ↔
        Unterminated place.rest) ∧
      (Unterminated place.rest →
        place.advance =
          .failed (.illegalMarkup (place.rest.take 10) place.line) place) ∧
      (¬ Unterminated place.rest →
        ∃ consumed next,
          consumed ≠ [] ∧ place.rest = consumed ++ next.rest ∧
            (place.advance = .skipped next ∨
              (∃ token, place.advance = .token token next) ∨
              ∃ spelling,
                place.advance =
                  .failed (.invalidReference spelling) next)) := by
  constructor
  · intro text decoded nonempty decoded_eq
    have read (unmarked : Unmarked text) :=
      Lexer.tokenize_of_unmarked nonempty decoded_eq unmarked lexer
    refine ⟨⟨?_, ?_⟩, ?_⟩
    · rintro ⟨line, tokenized⟩
      exact Lexer.unmarked_of_tokenize decoded_eq tokenized
    · intro unmarked
      exact ⟨1, read unmarked⟩
    · intro unmarked
      exact ⟨read unmarked,
        Parser.parse_of_unmarked nonempty decoded_eq unmarked parser⟩
  · intro place inContent notAtEnd
    exact ⟨Lexer.exists_failed_iff_unterminated inContent notAtEnd,
      Lexer.advance_of_unterminated inContent,
      Lexer.exists_consumed inContent notAtEnd⟩

/-- A comparison beside an escaped ampersand, and a comment whose end lacks a
dash. -/
theorem plain_text_is_one_token_of_comparison :
    ("a < b &amp; c" : Text) ≠ [] ∧
    decodeReferences "a < b &amp; c" = .ok "a < b & c" ∧
    Unmarked "a < b &amp; c" ∧
    (Lexer.tokenize {} "a < b &amp; c").1 = .ok [⟨.text "a < b & c", 1⟩] ∧
    (Parser.parse {} "a < b &amp; c").1 = .ok [.text "a < b & c"] ∧
    Unterminated "<!-- a ->" ∧
    Lexer.advance ⟨"<!-- a ->", .content, 3⟩ =
      .failed (.illegalMarkup "<!-- a ->" 3) ⟨"<!-- a ->", .content, 3⟩ := by
  have nonempty : ("a < b &amp; c" : Text) ≠ [] := by decide
  have decoded : decodeReferences "a < b &amp; c" = .ok "a < b & c" :=
    @decodeReferences_escape .quotationMark "a < b & c"
  have unmarked : Unmarked "a < b &amp; c" :=
    textRun_eq_iff_unmarked.1 (by decide)
  have endless : Unterminated "<!-- a ->" :=
    unterminated_iff_unclosed.2 (@Unclosed.enclosed .comment " a ->" rfl)
  rcases plain_text_is_one_token {} {} with ⟨read, places⟩
  have tokens := ((read _ _ nonempty decoded).2 unmarked).1
  have nodes := ((read _ _ nonempty decoded).2 unmarked).2
  have fault := (places ⟨"<!-- a ->", .content, 3⟩ rfl (by decide)).2.1 endless
  exact ⟨nonempty, decoded, unmarked, tokens, nodes, endless, fault⟩

end Markup

end AnnotatedSql
