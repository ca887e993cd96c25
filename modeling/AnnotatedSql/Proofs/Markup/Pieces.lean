import AnnotatedSql.Proofs.Markup.Lexing

/-!
# Pieces of a document

What a lexer reads at a place of the content is told by how the rest of the
document begins: with a comment, a declaration or a section of character data,
with a close tag, with a start tag, or with none of these, and then it is
text.  No two of them begin alike.  Something that has begun but is never
closed is a fault, and nothing else is, except for a bad reference in a text.

Inside a start tag there are space, the marks of a tag, names and strings.
Whatever begins none of them is a fault.
-/

namespace AnnotatedSql.Markup

/-! ## Sections -/

/-- What stands between two fixed words. -/
inductive SectionKind where
  | comment
  | declaration
  | verbatim

namespace SectionKind

/-- The word in front of a section. -/
def opening : SectionKind → Text
  | comment => "<!--"
  | declaration => "<?"
  | verbatim => "<![CDATA["

/-- The word behind a section. -/
def closing : SectionKind → Text
  | comment => "-->"
  | declaration => "?>"
  | verbatim => "]]>"

/-- What becomes of a section: character data is text, the others are
passed over. -/
def reading
    (kind : SectionKind)
    (line : Nat)
    (inside rest : Text) : Reading :=
  let next : Lexer := ⟨rest, .content, line + inside.lineFeeds⟩
  match kind with
  | comment => .skipped next
  | declaration => .skipped next
  | verbatim => .token ⟨.text inside, line⟩ next

end SectionKind

/-! ## How content goes on -/

/-- Something that begins at a place of the content but is not closed. -/
inductive Unclosed : Text → Prop where
  | enclosed
      (kind : SectionKind)
      {body : Text}
      (uncut : Text.cutAtFirst? kind.closing body = none) :
      Unclosed (kind.opening ++ body)
  | closeTag
      {body : Text}
      (missing : closeTagAtStart? (("</" : Text) ++ body) = none) :
      Unclosed (("</" : Text) ++ body)

/-- What is read at a place of the content, and how the rest begins. -/
inductive ContentPiece (line : Nat) : Text → Reading → Prop where
  | finished : ContentPiece line [] .finished
  | enclosed
      (kind : SectionKind)
      {body inside rest : Text}
      (cut : Text.cutAtFirst? kind.closing body = some (inside, rest)) :
      ContentPiece line (kind.opening ++ body) (kind.reading line inside rest)
  | closeTag
      {body name rest : Text}
      (found : closeTagAtStart? (("</" : Text) ++ body) = some (name, rest)) :
      ContentPiece line (("</" : Text) ++ body)
        (.token ⟨.closeTag name, line⟩ ⟨rest, .content, line⟩)
  | openTag
      {body name rest : Text}
      (found : nameAtStart? body = some (name, rest)) :
      ContentPiece line (CodePoint.scalar '<' :: body)
        (.token ⟨.openTag name, line⟩ ⟨rest, .startTag, line⟩)
  | text
      {text run rest : Text}
      {first : CodePoint}
      (found : textRun text = (first :: run, rest)) :
      ContentPiece line text
        (Lexer.decoded .text (first :: run) line
          ⟨rest, .content, line + Text.lineFeeds (first :: run)⟩)
  | unclosed
      {text : Text}
      (unclosed : Unclosed text) :
      ContentPiece line text
        (.failed (.illegalMarkup (text.take 10) line) ⟨text, .content, line⟩)

/-! ## What begins markup -/

theorem textRun_of_beginsMarkup
    {text : Text}
    (begins : beginsMarkup text = true) :
    textRun (CodePoint.scalar '<' :: text) =
      ([], CodePoint.scalar '<' :: text) := by
  rw [textRun, if_pos ⟨rfl, begins⟩]

/-- A mark begins a section, a close tag or a start tag, if anything. -/
theorem cases_of_beginsMarkup
    {text : Text}
    (begins : beginsMarkup text = true) :
    (∃ kind : SectionKind, ∃ body,
      CodePoint.scalar '<' :: text = kind.opening ++ body) ∨
    (∃ body, CodePoint.scalar '<' :: text = ("</" : Text) ++ body) ∨
    ∃ name rest, nameAtStart? text = some (name, rest) := by
  rw [beginsMarkup, Bool.or_eq_true, Bool.or_eq_true] at begins
  rcases begins with (begins | begins) | begins
  · cases text with
    | nil => exact nomatch begins
    | cons first text =>
        simp only [List.head?_cons, Option.any_some, Bool.or_eq_true,
          decide_eq_true_eq] at begins
        rcases begins with (starts | rfl) | rfl
        · refine .inr (.inr ⟨first :: text.takeWhile isNamePart,
            text.dropWhile isNamePart, ?_⟩)
          rw [nameAtStart?, if_pos starts]
        · exact .inr (.inl ⟨text, rfl⟩)
        · exact .inl ⟨.declaration, text, rfl⟩
  · rcases Option.isSome_iff_exists.1 begins with ⟨body, found⟩
    rw [Text.append_of_after? found]
    exact .inl ⟨.comment, body, rfl⟩
  · rcases Option.isSome_iff_exists.1 begins with ⟨body, found⟩
    rw [Text.append_of_after? found]
    exact .inl ⟨.verbatim, body, rfl⟩

theorem isNameStart_of_nameAtStart?
    {text name rest : Text}
    (found : nameAtStart? text = some (name, rest)) :
    ∃ first others, text = first :: others ∧ isNameStart first = true := by
  cases text with
  | nil => cases found
  | cons first others =>
      refine ⟨first, others, rfl, ?_⟩
      by_contra refused
      rw [nameAtStart?, if_neg refused] at found
      cases found

/-- A mark that begins no markup begins neither a section nor a tag. -/
theorem none_of_not_beginsMarkup
    {text : Text}
    (plain : beginsMarkup text = false) :
    Text.after? "!--" text = none ∧ Text.after? "?" text = none ∧
      Text.after? "![CDATA[" text = none ∧ Text.after? "/" text = none ∧
      nameAtStart? text = none := by
  rw [beginsMarkup, Bool.or_eq_false_iff, Bool.or_eq_false_iff,
    Option.isSome_eq_false_iff, Option.isSome_eq_false_iff,
    Option.isNone_iff_eq_none, Option.isNone_iff_eq_none] at plain
  rcases plain with ⟨⟨noHead, noComment⟩, noVerbatim⟩
  cases text with
  | nil => exact ⟨noComment, rfl, noVerbatim, rfl, rfl⟩
  | cons first text =>
      simp only [List.head?_cons, Option.any_some, Bool.or_eq_false_iff,
        decide_eq_false_iff_not] at noHead
      rcases noHead with ⟨⟨notName, notSlash⟩, notQuestion⟩
      refine ⟨noComment, Text.after?_of_head_ne (Ne.symm notQuestion) _ _,
        noVerbatim, Text.after?_of_head_ne (Ne.symm notSlash) _ _, ?_⟩
      rw [nameAtStart?, notName]
      rfl

/-- Every place of the content goes on somehow. -/
theorem exists_contentPiece
    (line : Nat)
    (text : Text) :
    ∃ reading, ContentPiece line text reading := by
  cases text with
  | nil => exact ⟨_, .finished⟩
  | cons first text =>
      by_cases isMark : first = '<' ∧ beginsMarkup text = true
      · rcases isMark with ⟨rfl, begins⟩
        rcases cases_of_beginsMarkup begins with
          ⟨kind, body, text_eq⟩ | ⟨body, text_eq⟩ | ⟨name, rest, found⟩
        · rw [text_eq]
          cases cut : Text.cutAtFirst? kind.closing body with
          | none => exact ⟨_, .unclosed (.enclosed kind cut)⟩
          | some parts => exact ⟨_, .enclosed kind cut⟩
        · rw [text_eq]
          cases found : closeTagAtStart? (("</" : Text) ++ body) with
          | none => exact ⟨_, .unclosed (.closeTag found)⟩
          | some parts => exact ⟨_, .closeTag found⟩
        · exact ⟨_, .openTag found⟩
      · have found :
            textRun (first :: text) =
              (first :: (textRun text).1, (textRun text).2) := by
          rw [textRun, if_neg isMark]
        exact ⟨_, .text found⟩

theorem sectionAtStart?_eq_none
    {opening text : Text}
    (notFound : Text.after? opening text = none)
    (closing : Text) :
    sectionAtStart? opening closing text = none := by
  rw [sectionAtStart?, notFound, Option.bind_none]

namespace Lexer

variable
    {line : Nat}

theorem advanceContent_of_comment
    {text inside rest : Text}
    (found : sectionAtStart? "<!--" "-->" text = some (inside, rest)) :
    advanceContent line text =
      .skipped ⟨rest, .content, line + inside.lineFeeds⟩ := by
  cases text with
  | nil => cases found
  | cons first text => rw [advanceContent, found]

theorem advanceContent_of_verbatim
    {text inside rest : Text}
    (noComment : Text.after? "<!--" text = none)
    (noDeclaration : Text.after? "<?" text = none)
    (found : sectionAtStart? "<![CDATA[" "]]>" text = some (inside, rest)) :
    advanceContent line text =
      .token ⟨.text inside, line⟩
        ⟨rest, .content, line + inside.lineFeeds⟩ := by
  cases text with
  | nil => cases found
  | cons first text =>
      rw [advanceContent, sectionAtStart?_eq_none noComment,
        sectionAtStart?_eq_none noDeclaration, found]

theorem advanceContent_of_closeTag
    {text name rest : Text}
    (noComment : Text.after? "<!--" text = none)
    (noDeclaration : Text.after? "<?" text = none)
    (noVerbatim : Text.after? "<![CDATA[" text = none)
    (found : closeTagAtStart? text = some (name, rest)) :
    advanceContent line text =
      .token ⟨.closeTag name, line⟩ ⟨rest, .content, line⟩ := by
  cases text with
  | nil => cases found
  | cons first text =>
      rw [advanceContent, sectionAtStart?_eq_none noComment,
        sectionAtStart?_eq_none noDeclaration,
        sectionAtStart?_eq_none noVerbatim, found]

/-- One piece of content that is a start tag or text. -/
def startTagOrText (line : Nat) (text : Text) : Reading :=
  match (Text.after? "<" text).bind nameAtStart? with
  | some (name, rest) => .token ⟨.openTag name, line⟩ ⟨rest, .startTag, line⟩
  | none =>
      match textRun text with
      | ([], _) =>
          .failed (.illegalMarkup (text.take 10) line) ⟨text, .content, line⟩
      | (first :: run, rest) =>
          decoded .text (first :: run) line
            ⟨rest, .content, line + Text.lineFeeds (first :: run)⟩

/-- Content that begins neither a section nor a close tag goes on with a
start tag or with text. -/
theorem advanceContent_of_no_section
    {text : Text}
    (nonempty : text ≠ [])
    (noComment : Text.after? "<!--" text = none)
    (noDeclaration : Text.after? "<?" text = none)
    (noVerbatim : Text.after? "<![CDATA[" text = none)
    (noCloseTag : Text.after? "</" text = none) :
    advanceContent line text = startTagOrText line text := by
  cases text with
  | nil => exact absurd rfl nonempty
  | cons first text =>
      have notClosed : closeTagAtStart? (first :: text) = none := by
        rw [closeTagAtStart?, noCloseTag]
        rfl
      rw [advanceContent, sectionAtStart?_eq_none noComment,
        sectionAtStart?_eq_none noDeclaration,
        sectionAtStart?_eq_none noVerbatim, notClosed]
      rfl

theorem advanceContent_of_declaration
    {text inside rest : Text}
    (noComment : Text.after? "<!--" text = none)
    (found : sectionAtStart? "<?" "?>" text = some (inside, rest)) :
    advanceContent line text =
      .skipped ⟨rest, .content, line + inside.lineFeeds⟩ := by
  cases text with
  | nil => exact nomatch found
  | cons first text =>
      rw [advanceContent, sectionAtStart?_eq_none noComment, found]

theorem advanceContent_of_section
    (kind : SectionKind)
    {body inside rest : Text}
    (cut : Text.cutAtFirst? kind.closing body = some (inside, rest)) :
    advanceContent line (kind.opening ++ body) =
      kind.reading line inside rest := by
  have found :
      sectionAtStart? kind.opening kind.closing (kind.opening ++ body) =
        some (inside, rest) := by
    rw [sectionAtStart?, Text.after?_append]
    exact cut
  cases kind with
  | comment => exact advanceContent_of_comment found
  | declaration => exact advanceContent_of_declaration rfl found
  | verbatim => exact advanceContent_of_verbatim rfl rfl found

/-- A section goes on up to where its end is first written. -/
theorem advanceContent_of_closed
    (kind : SectionKind)
    {inside : Text}
    (closed : Text.occursIn kind.closing inside = false)
    (rest : Text) :
    advanceContent line (kind.opening ++ (inside ++ (kind.closing ++ rest))) =
      kind.reading line inside rest := by
  refine advanceContent_of_section kind ?_
  cases kind with
  | comment =>
      exact @Text.cutAtFirst?_append "--" inside '>' (by decide) closed rest
  | declaration =>
      exact @Text.cutAtFirst?_append "?" inside '>' (by decide) closed rest
  | verbatim =>
      exact @Text.cutAtFirst?_append "]]" inside '>' (by decide) closed rest

/-- A start tag begins with none of the marks of sections and close tags. -/
theorem advanceContent_of_startTag
    {body name rest : Text}
    (found : nameAtStart? body = some (name, rest)) :
    advanceContent line (CodePoint.scalar '<' :: body) =
      .token ⟨.openTag name, line⟩ ⟨rest, .startTag, line⟩ := by
  rcases isNameStart_of_nameAtStart? found with ⟨first, body, rfl, starts⟩
  have notFound
      (mark : CodePoint)
      (refused : isNameStart mark = false)
      (word : Text) :
      Text.after? (CodePoint.scalar '<' :: mark :: word)
        (CodePoint.scalar '<' :: first :: body) = none := by
    rw [Text.after?, if_pos rfl]
    exact Text.after?_of_head_ne (ne_of_isNameStart starts refused).symm _ _
  have begins : Text.after? "<"
      (CodePoint.scalar '<' :: first :: body) = some (first :: body) :=
    Text.after?_append "<" _
  rw [advanceContent_of_no_section (by simp)
    (notFound '!' rfl _) (notFound '?' rfl _) (notFound '!' rfl _)
    (notFound '/' rfl _), startTagOrText, begins, Option.bind_some, found]

/-- Text begins with a code point other than a mark, or with a mark that
begins no markup. -/
theorem advanceContent_of_text
    {text run rest : Text}
    {first : CodePoint}
    (found : textRun text = (first :: run, rest)) :
    advanceContent line text =
      decoded .text (first :: run) line
        ⟨rest, .content, line + Text.lineFeeds (first :: run)⟩ := by
  cases text with
  | nil => exact nomatch found
  | cons first' text =>
      have plain (isMark : CodePoint.scalar '<' = first') :
          beginsMarkup text = false := by
        rw [← Bool.not_eq_true]
        intro begins
        rw [← isMark, textRun_of_beginsMarkup begins] at found
        exact nomatch found
      have noWord
          (word : Text)
          (notFound :
            beginsMarkup text = false → Text.after? word text = none) :
          Text.after? (CodePoint.scalar '<' :: word) (first' :: text) =
            none := by
        rw [Text.after?]
        split
        · next isMark => exact notFound (plain isMark)
        · rfl
      have noTag :
          (Text.after? "<" (first' :: text)).bind nameAtStart? = none := by
        by_cases isMark : CodePoint.scalar '<' = first'
        · have begins :
              Text.after? "<" (first' :: text) = some text := by
            rw [← isMark]
            exact Text.after?_append "<" text
          rw [begins, Option.bind_some]
          exact (none_of_not_beginsMarkup (plain isMark)).2.2.2.2
        · have notFound : Text.after? "<" (first' :: text) = none :=
            Text.after?_of_head_ne isMark _ _
          rw [notFound, Option.bind_none]
      rw [advanceContent_of_no_section (by simp)
        (noWord _ fun plain => (none_of_not_beginsMarkup plain).1)
        (noWord _ fun plain => (none_of_not_beginsMarkup plain).2.1)
        (noWord _ fun plain => (none_of_not_beginsMarkup plain).2.2.1)
        (noWord _ fun plain => (none_of_not_beginsMarkup plain).2.2.2.1),
        startTagOrText, noTag, found]

/-- Markup that is not complete in any way is a fault. -/
theorem advanceContent_of_incomplete
    {text : Text}
    (begins : beginsMarkup text = true)
    (noComment :
      sectionAtStart? "<!--" "-->" (CodePoint.scalar '<' :: text) = none)
    (noDeclaration :
      sectionAtStart? "<?" "?>" (CodePoint.scalar '<' :: text) = none)
    (noVerbatim :
      sectionAtStart? "<![CDATA[" "]]>" (CodePoint.scalar '<' :: text) = none)
    (noCloseTag : closeTagAtStart? (CodePoint.scalar '<' :: text) = none)
    (noName : nameAtStart? text = none) :
    advanceContent line (CodePoint.scalar '<' :: text) =
      .failed
        (.illegalMarkup ((CodePoint.scalar '<' :: text).take 10) line)
        ⟨CodePoint.scalar '<' :: text, .content, line⟩ := by
  have noTag :
      (Text.after? "<" (CodePoint.scalar '<' :: text)).bind nameAtStart? =
        none := by
    have found : Text.after? "<" (CodePoint.scalar '<' :: text) = some text :=
      Text.after?_append "<" text
    rw [found, Option.bind_some, noName]
  rw [advanceContent, noComment, noDeclaration, noVerbatim, noCloseTag, noTag,
    textRun_of_beginsMarkup begins]

theorem advanceContent_of_unclosed
    {text : Text}
    (unclosed : Unclosed text) :
    advanceContent line text =
      .failed (.illegalMarkup (text.take 10) line) ⟨text, .content, line⟩ := by
  cases unclosed with
  | @enclosed kind body uncut =>
      have incomplete :
          sectionAtStart? kind.opening kind.closing (kind.opening ++ body) =
            none := by
        rw [sectionAtStart?, Text.after?_append]
        exact uncut
      cases kind with
      | comment =>
          exact advanceContent_of_incomplete rfl incomplete rfl rfl rfl rfl
      | declaration =>
          exact advanceContent_of_incomplete rfl rfl incomplete rfl rfl rfl
      | verbatim =>
          exact advanceContent_of_incomplete rfl rfl rfl incomplete rfl rfl
  | closeTag missing =>
      exact advanceContent_of_incomplete rfl rfl rfl rfl missing rfl

/-- A lexer reads a piece of content exactly as the rest of the document
begins. -/
theorem contentPiece_iff
    {text : Text}
    {reading : Reading} :
    ContentPiece line text reading ↔ advanceContent line text = reading := by
  have sound
      {reading : Reading}
      (piece : ContentPiece line text reading) :
      advanceContent line text = reading := by
    cases piece with
    | finished => rfl
    | enclosed kind cut => exact advanceContent_of_section kind cut
    | closeTag found => exact advanceContent_of_closeTag rfl rfl rfl found
    | openTag found => exact advanceContent_of_startTag found
    | text found => exact advanceContent_of_text found
    | unclosed unclosed => exact advanceContent_of_unclosed unclosed
  constructor
  · exact sound
  · rintro rfl
    rcases exists_contentPiece line text with ⟨reading, piece⟩
    rw [sound piece]
    exact piece

theorem contentPiece_advanceContent
    (line : Nat)
    (text : Text) :
    ContentPiece line text (advanceContent line text) :=
  contentPiece_iff.2 rfl

end Lexer

/-! ## How a start tag goes on -/

/-- A code point that begins nothing inside a start tag. -/
structure Illegal (first : CodePoint) (text : Text) : Prop where
  notSpace : ¬ (first = ' ' ∨ first = '\t' ∨ first = '\r')
  notLineFeed : first ≠ '\n'
  notSelfClose : Text.after? "/>" (first :: text) = none
  notTagEnd : first ≠ '>'
  notEquals : first ≠ '='
  notName : nameAtStart? (first :: text) = none
  notString : Lexer.stringAfter? first text = none

/-- What is read at a place of a start tag, and how the rest begins. -/
inductive StartTagPiece (line : Nat) : Text → Reading → Prop where
  | finished : StartTagPiece line [] .finished
  | space
      {first : CodePoint}
      {text : Text}
      (isSpace : first = ' ' ∨ first = '\t' ∨ first = '\r') :
      StartTagPiece line (first :: text) (.skipped ⟨text, .startTag, line⟩)
  | lineFeed
      {text : Text} :
      StartTagPiece line (CodePoint.scalar '\n' :: text)
        (.skipped ⟨text, .startTag, line + 1⟩)
  | selfClose
      {text : Text} :
      StartTagPiece line (("/>" : Text) ++ text)
        (.token ⟨.selfClose, line⟩ ⟨text, .content, line⟩)
  | tagEnd
      {text : Text} :
      StartTagPiece line (CodePoint.scalar '>' :: text)
        (.token ⟨.tagEnd, line⟩ ⟨text, .content, line⟩)
  | equals
      {text : Text} :
      StartTagPiece line (CodePoint.scalar '=' :: text)
        (.token ⟨.equals, line⟩ ⟨text, .startTag, line⟩)
  | name
      {text name rest : Text}
      (found : nameAtStart? text = some (name, rest)) :
      StartTagPiece line text
        (.token ⟨.name name, line⟩ ⟨rest, .startTag, line⟩)
  | string
      {quote : NamedCharacter}
      {text inside rest : Text}
      (isQuote : quote = .quotationMark ∨ quote = .apostrophe)
      (cut : Text.cutAtFirst? [CodePoint.scalar quote.character] text =
        some (inside, rest)) :
      StartTagPiece line (CodePoint.scalar quote.character :: text)
        (Lexer.decoded .string inside line
          ⟨rest, .startTag, line + inside.lineFeeds⟩)
  | illegal
      {first : CodePoint}
      {text : Text}
      (illegal : Illegal first text) :
      StartTagPiece line (first :: text)
        (.failed (.illegalCharacter first line)
          ⟨first :: text, .content, line⟩)

/-- Every place of a start tag goes on somehow. -/
theorem exists_startTagPiece
    (line : Nat)
    (text : Text) :
    ∃ reading, StartTagPiece line text reading := by
  cases text with
  | nil => exact ⟨_, .finished⟩
  | cons first text =>
      by_cases isSpace : first = ' ' ∨ first = '\t' ∨ first = '\r'
      · exact ⟨_, .space isSpace⟩
      by_cases isLineFeed : first = '\n'
      · rw [isLineFeed]
        exact ⟨_, .lineFeed⟩
      cases selfClose : Text.after? "/>" (first :: text) with
      | some rest =>
          rw [Text.append_of_after? selfClose]
          exact ⟨_, .selfClose⟩
      | none =>
      by_cases isTagEnd : first = '>'
      · rw [isTagEnd]
        exact ⟨_, .tagEnd⟩
      by_cases isEquals : first = '='
      · rw [isEquals]
        exact ⟨_, .equals⟩
      cases named : nameAtStart? (first :: text) with
      | some parts => exact ⟨_, .name named⟩
      | none =>
      cases found : Lexer.stringAfter? first text with
      | none =>
          exact ⟨_, .illegal ⟨isSpace, isLineFeed, selfClose, isTagEnd,
            isEquals, named, found⟩⟩
      | some parts =>
          rw [Lexer.stringAfter?] at found
          split at found
          · next isQuote =>
            rcases isQuote with rfl | rfl
            · exact ⟨_, .string (.inl rfl) found⟩
            · exact ⟨_, .string (.inr rfl) found⟩
          · exact nomatch found

namespace Lexer

variable
    {line : Nat}

/-- Behind a quotation mark a tag goes on with a string. -/
theorem advanceStartTag_quote
    {quote : NamedCharacter}
    (isQuote : quote = .quotationMark ∨ quote = .apostrophe)
    {text inside rest : Text}
    (cut : Text.cutAtFirst? [CodePoint.scalar quote.character] text =
      some (inside, rest)) :
    advanceStartTag line (CodePoint.scalar quote.character :: text) =
      decoded .string inside line
        ⟨rest, .startTag, line + inside.lineFeeds⟩ := by
  have notSpace : ¬ (CodePoint.scalar quote.character = ' ' ∨
      CodePoint.scalar quote.character = '\t' ∨
      CodePoint.scalar quote.character = '\r') := by
    rcases isQuote with rfl | rfl <;> decide
  have differs (mark : CodePoint) (notQuote : mark ≠ '"' ∧ mark ≠ '\'') :
      CodePoint.scalar quote.character ≠ mark := by
    rcases isQuote with rfl | rfl
    · exact notQuote.1.symm
    · exact notQuote.2.symm
  have notSelfClose :
      Text.after? "/>" (CodePoint.scalar quote.character :: text) = none :=
    Text.after?_of_head_ne (differs '/' (by decide)).symm _ _
  have notName :
      nameAtStart? (CodePoint.scalar quote.character :: text) = none := by
    rcases isQuote with rfl | rfl <;> rfl
  have found :
      stringAfter? (CodePoint.scalar quote.character) text =
        some (inside, rest) := by
    rw [stringAfter?, if_pos, cut]
    rcases isQuote with rfl | rfl
    · exact .inl rfl
    · exact .inr rfl
  rw [advanceStartTag, if_neg notSpace, if_neg (differs '\n' (by decide)),
    notSelfClose]
  simp only
  rw [if_neg (differs '>' (by decide)), if_neg (differs '=' (by decide)),
    notName]
  simp only [found]

/-- A name begins with none of the marks of a start tag. -/
theorem advanceStartTag_of_name
    {text name rest : Text}
    (found : nameAtStart? text = some (name, rest)) :
    advanceStartTag line text =
      .token ⟨.name name, line⟩ ⟨rest, .startTag, line⟩ := by
  rcases isNameStart_of_nameAtStart? found with ⟨first, others, rfl, starts⟩
  have differs := @ne_of_isNameStart first
  have notSpace : ¬ (first = ' ' ∨ first = '\t' ∨ first = '\r') := by
    rintro (rfl | rfl | rfl) <;> exact absurd starts (by decide)
  have notSelfClose : Text.after? "/>" (first :: others) = none :=
    Text.after?_of_head_ne (differs starts rfl).symm _ _
  rw [advanceStartTag, if_neg notSpace, if_neg (differs starts rfl),
    notSelfClose]
  simp only
  rw [if_neg (differs starts rfl), if_neg (differs starts rfl), found]

theorem advanceStartTag_of_illegal
    {first : CodePoint}
    {text : Text}
    (illegal : Illegal first text) :
    advanceStartTag line (first :: text) =
      .failed (.illegalCharacter first line)
        ⟨first :: text, .content, line⟩ := by
  rw [advanceStartTag, if_neg illegal.notSpace, if_neg illegal.notLineFeed,
    illegal.notSelfClose]
  simp only
  rw [if_neg illegal.notTagEnd, if_neg illegal.notEquals, illegal.notName]
  simp only
  rw [illegal.notString]

/-- A lexer reads a piece of a start tag exactly as the rest of the document
begins. -/
theorem startTagPiece_iff
    {text : Text}
    {reading : Reading} :
    StartTagPiece line text reading ↔ advanceStartTag line text = reading := by
  have sound
      {reading : Reading}
      (piece : StartTagPiece line text reading) :
      advanceStartTag line text = reading := by
    cases piece with
    | finished => rfl
    | space isSpace => rw [advanceStartTag, if_pos isSpace]
    | lineFeed => rfl
    | selfClose => rfl
    | tagEnd => rfl
    | equals => rfl
    | name found => exact advanceStartTag_of_name found
    | string isQuote cut => exact advanceStartTag_quote isQuote cut
    | illegal illegal => exact advanceStartTag_of_illegal illegal
  constructor
  · exact sound
  · rintro rfl
    rcases exists_startTagPiece line text with ⟨reading, piece⟩
    rw [sound piece]
    exact piece

theorem startTagPiece_advanceStartTag
    (line : Nat)
    (text : Text) :
    StartTagPiece line text (advanceStartTag line text) :=
  startTagPiece_iff.2 rfl

end Lexer

end AnnotatedSql.Markup
