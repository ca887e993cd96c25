import AnnotatedSql.Proofs.Markup.Pieces
import AnnotatedSql.Proofs.Markup.Reading

/-!
# The lines of tokens and elements

A lexer takes a document off piece by piece.  Each piece has its source text,
and some have a token, which the source text spells.  The sources joined are
the document again, so what stands before a token is what the pieces before
it were taken from.

The line of a token is one more than the line feeds before it, except that
the line feeds inside close tags are not counted.  The lines of tokens, and
of the elements that begin with them, are right in every document where no
close tag spans several lines, and too small by the missing line feeds in all
others.
-/

namespace AnnotatedSql

namespace Text

@[simp]
theorem lineFeeds_append (text text' : Text) :
    (text ++ text').lineFeeds = text.lineFeeds + text'.lineFeeds :=
  List.count_append

/-- A text that is followed by another is what is left after taking off as
many code points as it is longer. -/
theorem take_length_sub
    {text source rest : Text}
    (text_eq : text = source ++ rest) :
    text.take (text.length - rest.length) = source := by
  rw [text_eq, List.length_append, Nat.add_sub_cancel, List.take_left]

end Text

namespace Markup

/-! ## What a token is spelled with -/

/-- How a token stands in the document: names between their marks, a run of
text or a string as what it is decoded from, character data as it is. -/
def Symbol.IsSpelledBy (source : Text) : Symbol → Prop
  | .text value =>
      decodeReferences source = .ok value ∨
        source = "<![CDATA[" ++ value ++ "]]>"
  | .openTag word => source = "<" ++ word
  | .closeTag word =>
      ∃ before after : Text,
        before.isBlank = true ∧
        after.isBlank = true ∧
        source = "</" ++ before ++ word ++ after ++ ">"
  | .name word => source = word
  | .equals => source = "="
  | .string value =>
      ∃ (quote : CodePoint) (inside : Text),
        (quote = '"' ∨ quote = '\'') ∧
        source = quote :: (inside ++ [quote]) ∧
        decodeReferences inside = .ok value
  | .tagEnd => source = ">"
  | .selfClose => source = "/>"

/-- A piece of a document: its source text, and its token if it has one. -/
structure Lexeme where
  source : Text
  token? : Option Token

namespace Lexeme

/-- The line feeds of a piece that a lexer does not count. -/
def uncountedLineFeeds (lexeme : Lexeme) : Nat :=
  match lexeme.token? with
  | some ⟨.closeTag _, _⟩ => lexeme.source.lineFeeds
  | _ => 0

/-- The tag and line of a piece that begins an element. -/
def opening? (lexeme : Lexeme) : Option (Text × Nat) :=
  match lexeme.token? with
  | some ⟨.openTag tag, line⟩ => some (tag, line)
  | _ => none

end Lexeme

/-! ## The words of a document -/

theorem append_of_nameAtStart?
    {text name rest : Text}
    (found : nameAtStart? text = some (name, rest)) :
    text = name ++ rest ∧ IsName name := by
  cases text with
  | nil => cases found
  | cons first text =>
      rw [nameAtStart?] at found
      split at found
      · next starts =>
        rcases Prod.mk.inj (Option.some.inj found) with ⟨rfl, rfl⟩
        have parts : ∀ point ∈ text.takeWhile isNamePart,
            isNamePart point = true :=
          fun _ within => List.mem_takeWhile_imp within
        refine ⟨?_, starts, parts⟩
        rw [List.cons_append, List.takeWhile_append_dropWhile]
      · cases found

/-- A name stands on one line. -/
theorem IsName.lineFeeds_eq_zero
    {name : Text}
    (isName : IsName name) :
    name.lineFeeds = 0 := by
  cases name with
  | nil => exact isName.elim
  | cons first name =>
      rw [Text.lineFeeds, List.count_eq_zero, List.mem_cons, not_or]
      constructor
      · exact (ne_of_isNameStart isName.1 (by decide)).symm
      · intro within
        exact absurd (isName.2 _ within) (by decide)

theorem append_of_textRun (text : Text) :
    (textRun text).1 ++ (textRun text).2 = text := by
  induction text with
  | nil => rfl
  | cons first text induction_hypothesis =>
      rw [textRun]
      split
      · rfl
      · rw [List.cons_append, induction_hypothesis]

/-- A close tag has space around its name, which may hold line feeds. -/
theorem append_of_closeTagAtStart?
    {text name rest : Text}
    (found : closeTagAtStart? text = some (name, rest)) :
    ∃ source,
      text = source ++ rest ∧
      (Symbol.closeTag name).IsSpelledBy source := by
  simp only [closeTagAtStart?, bind, Option.bind_eq_some_iff, Prod.exists,
    pure, Option.some.injEq, Prod.mk.injEq] at found
  rcases found with
    ⟨inside, opened, name', afterName, named, rest', closed, rfl, rfl⟩
  rcases Text.append_of_trimStart inside with ⟨before, before_blank, inside_eq⟩
  rcases Text.append_of_trimStart afterName with ⟨after, after_blank, after_eq⟩
  have name_eq := (append_of_nameAtStart? named).1
  have close_eq := Text.append_of_after? closed
  refine ⟨"</" ++ before ++ name' ++ after ++ ">", ?_, before, after,
    before_blank, after_blank, rfl⟩
  rw [Text.append_of_after? opened, inside_eq, name_eq, after_eq, close_eq]
  simp only [List.append_assoc]

namespace Lexer

/-! ## One piece -/

/-- A lexer takes a piece off the document and stands behind it. -/
structure TakesOff
    (lexer : Lexer)
    (lexeme : Lexeme)
    (following : Lexer) : Prop where
  rest_eq : lexer.rest = lexeme.source ++ following.rest
  nonempty : lexeme.source ≠ []
  spelled : ∀ token ∈ lexeme.token?, token.symbol.IsSpelledBy lexeme.source
  line_eq : ∀ token ∈ lexeme.token?, token.line = lexer.line
  line_following :
    following.line + lexeme.uncountedLineFeeds =
      lexer.line + lexeme.source.lineFeeds

variable
  {mode mode' : LexerMode}
  {text source rest : Text}
  {line line' : Nat}

/-- A piece without a token has all its line feeds counted. -/
theorem TakesOff.of_skipped
    (text_eq : text = source ++ rest)
    (nonempty : source ≠ [])
    (counted : line' = line + source.lineFeeds) :
    TakesOff ⟨text, mode, line⟩ ⟨source, none⟩ ⟨rest, mode', line'⟩ where
  rest_eq := text_eq
  nonempty := nonempty
  spelled := by simp
  line_eq := by simp
  line_following := counted

/-- A piece with a token other than a close tag has all its line feeds
counted. -/
theorem TakesOff.of_token
    {symbol : Symbol}
    (text_eq : text = source ++ rest)
    (nonempty : source ≠ [])
    (spelled : symbol.IsSpelledBy source)
    (notClose : Lexeme.uncountedLineFeeds ⟨source, some ⟨symbol, line⟩⟩ = 0)
    (counted : line' = line + source.lineFeeds) :
    TakesOff ⟨text, mode, line⟩ ⟨source, some ⟨symbol, line⟩⟩
      ⟨rest, mode', line'⟩ where
  rest_eq := text_eq
  nonempty := nonempty
  spelled := by
    rintro token ⟨rfl⟩
    exact spelled
  line_eq := by
    rintro token ⟨rfl⟩
    rfl
  line_following := by
    rw [notClose, Nat.add_zero, counted]

theorem TakesOff.of_closeTag
    {name : Text}
    (text_eq : text = source ++ rest)
    (spelled : (Symbol.closeTag name).IsSpelledBy source) :
    TakesOff ⟨text, mode, line⟩ ⟨source, some ⟨.closeTag name, line⟩⟩
      ⟨rest, mode', line⟩ where
  rest_eq := text_eq
  nonempty := by
    rintro rfl
    rcases spelled with ⟨before, after, _, _, source_eq⟩
    simp only [List.nil_eq_append_iff] at source_eq
    exact absurd source_eq.2 (by decide)
  spelled := by
    rintro token ⟨rfl⟩
    exact spelled
  line_eq := by
    rintro token ⟨rfl⟩
    rfl
  line_following := rfl

/-- The piece of a reading, with the lexer behind it. -/
def TakesOffReading (lexer : Lexer) : Reading → Prop
  | .skipped following =>
      ∃ source, TakesOff lexer ⟨source, none⟩ following
  | .token token following =>
      ∃ source, TakesOff lexer ⟨source, some token⟩ following
  | .finished => lexer.rest = []
  | .failed _ _ => True

/-- Decoding changes neither the source nor its line feeds. -/
theorem takesOffReading_decoded
    {symbol : Text → Symbol}
    {value : Text}
    (text_eq : text = source ++ rest)
    (nonempty : source ≠ [])
    (spelled : ∀ decoded,
      decodeReferences value = .ok decoded →
        (symbol decoded).IsSpelledBy source)
    (notClose : ∀ decoded,
      Lexeme.uncountedLineFeeds ⟨source, some ⟨symbol decoded, line⟩⟩ = 0)
    (counted : line' = line + source.lineFeeds) :
    TakesOffReading ⟨text, mode, line⟩
      (decoded symbol value line ⟨rest, mode', line'⟩) := by
  unfold decoded
  cases decoded_eq : decodeReferences value with
  | error error => trivial
  | ok decoded =>
      exact ⟨source, .of_token text_eq nonempty (spelled decoded decoded_eq)
        (notClose decoded) counted⟩

/-- A section has the line feeds of its inside, since its marks have none. -/
theorem takesOffReading_section
    (kind : SectionKind)
    {body inside : Text}
    (cut : Text.cutAtFirst? kind.closing body = some (inside, rest)) :
    TakesOffReading ⟨kind.opening ++ body, mode, line⟩
      (kind.reading line inside rest) := by
  have text_eq :
      kind.opening ++ body =
        kind.opening ++ inside ++ kind.closing ++ rest := by
    rw [Text.append_of_cutAtFirst? cut]
    simp only [List.append_assoc]
  have nonempty : kind.opening ++ inside ++ kind.closing ≠ [] := by
    cases kind <;> exact List.cons_ne_nil _ _
  have counted :
      line + inside.lineFeeds =
        line + (kind.opening ++ inside ++ kind.closing).lineFeeds := by
    have marks : kind.opening.lineFeeds = 0 ∧ kind.closing.lineFeeds = 0 := by
      cases kind <;> decide
    rw [Text.lineFeeds_append, Text.lineFeeds_append, marks.1, marks.2,
      Nat.zero_add, Nat.add_zero]
  cases kind with
  | comment => exact ⟨_, .of_skipped text_eq nonempty counted⟩
  | declaration => exact ⟨_, .of_skipped text_eq nonempty counted⟩
  | verbatim =>
      exact ⟨_, .of_token text_eq nonempty (.inr rfl) rfl counted⟩

theorem takesOffReading_advanceContent (line : Nat) (text : Text) :
    TakesOffReading ⟨text, .content, line⟩ (advanceContent line text) := by
  have piece := contentPiece_advanceContent line text
  generalize advanceContent line text = reading at piece ⊢
  cases piece with
  | finished => rfl
  | enclosed kind cut => exact takesOffReading_section kind cut
  | closeTag found =>
      rcases append_of_closeTagAtStart? found with ⟨source, text_eq, spelled⟩
      exact ⟨source, .of_closeTag text_eq spelled⟩
  | @openTag body name rest found =>
      rcases append_of_nameAtStart? found with ⟨rfl, isName⟩
      refine ⟨"<" ++ name,
        .of_token rfl (List.cons_ne_nil _ _) rfl rfl ?_⟩
      rw [Text.lineFeeds_append, isName.lineFeeds_eq_zero]
      rfl
  | text found =>
      have text_eq := append_of_textRun text
      rw [found] at text_eq
      exact takesOffReading_decoded text_eq.symm (List.cons_ne_nil _ _)
        (fun _ decoded_eq => .inl decoded_eq) (fun _ => rfl) rfl
  | unclosed => trivial

theorem takesOffReading_advanceStartTag (line : Nat) (text : Text) :
    TakesOffReading ⟨text, .startTag, line⟩ (advanceStartTag line text) := by
  have piece := startTagPiece_advanceStartTag line text
  generalize advanceStartTag line text = reading at piece ⊢
  cases piece with
  | finished => rfl
  | @space first text isSpace =>
      refine ⟨[first], .of_skipped rfl (List.cons_ne_nil _ _) ?_⟩
      rcases isSpace with rfl | rfl | rfl <;> rfl
  | lineFeed => exact ⟨"\n", .of_skipped rfl (by decide) rfl⟩
  | selfClose => exact ⟨"/>", .of_token rfl (by decide) rfl rfl rfl⟩
  | tagEnd => exact ⟨">", .of_token rfl (by decide) rfl rfl rfl⟩
  | equals => exact ⟨"=", .of_token rfl (by decide) rfl rfl rfl⟩
  | @name _ name rest found =>
      rcases append_of_nameAtStart? found with ⟨text_eq, isName⟩
      have nonempty : name ≠ [] := by
        rintro rfl
        exact isName.elim
      exact ⟨name, .of_token text_eq nonempty rfl rfl
        (by rw [isName.lineFeeds_eq_zero]; rfl)⟩
  | @string quote text inside rest isQuote cut =>
      have source_eq :
          CodePoint.scalar quote.character :: text =
            [CodePoint.scalar quote.character] ++ inside ++
              [CodePoint.scalar quote.character] ++ rest := by
        rw [Text.append_of_cutAtFirst? cut]
        simp
      have quoteMark :
          CodePoint.scalar quote.character = '"' ∨
            CodePoint.scalar quote.character = '\'' := by
        rcases isQuote with rfl | rfl
        · exact .inl rfl
        · exact .inr rfl
      have noLineFeed :
          Text.lineFeeds [CodePoint.scalar quote.character] = 0 := by
        rcases isQuote with rfl | rfl <;> rfl
      refine takesOffReading_decoded source_eq (by simp)
        (fun decoded decoded_eq => ⟨_, inside, quoteMark, rfl, decoded_eq⟩)
        (fun _ => rfl) ?_
      rw [Text.lineFeeds_append, Text.lineFeeds_append, noLineFeed,
        Nat.zero_add, Nat.add_zero]
  | illegal => trivial

/-- Every piece that a lexer reads is taken off the document. -/
theorem takesOffReading_advance (lexer : Lexer) :
    TakesOffReading lexer lexer.advance := by
  rcases lexer with ⟨text, _ | _, line⟩
  · exact takesOffReading_advanceContent line text
  · exact takesOffReading_advanceStartTag line text

/-! ## All pieces -/

/-- What a lexer has taken off the document on its way to a later place. -/
def sourceUpTo (lexer following : Lexer) : Text :=
  lexer.rest.take (lexer.rest.length - following.rest.length)

/-- The pieces of what is left of a document, up to its end or first fault. -/
def lexemes (lexer : Lexer) : List Lexeme :=
  match _ : lexer.advance with
  | .skipped following =>
      ⟨lexer.sourceUpTo following, none⟩ :: following.lexemes
  | .token token following =>
      ⟨lexer.sourceUpTo following, some token⟩ :: following.lexemes
  | .finished => []
  | .failed _ _ => []
termination_by lexer.rest.length
decreasing_by all_goals exact length_lt_of_advance (by simp [*, Reading.next?])

section

variable
  {lexer following : Lexer}
  {source : Text}

theorem TakesOff.sourceUpTo_eq
    {lexeme : Lexeme}
    (taken : TakesOff lexer lexeme following) :
    lexer.sourceUpTo following = lexeme.source :=
  Text.take_length_sub taken.rest_eq

theorem lexemes_of_skipped
    (step : lexer.advance = .skipped following)
    (taken : lexer.sourceUpTo following = source) :
    lexer.lexemes = ⟨source, none⟩ :: following.lexemes := by
  rw [lexemes]
  split <;> simp_all

theorem lexemes_of_token
    {token : Token}
    (step : lexer.advance = .token token following)
    (taken : lexer.sourceUpTo following = source) :
    lexer.lexemes = ⟨source, some token⟩ :: following.lexemes := by
  rw [lexemes]
  split <;> simp_all

theorem lexemes_of_finished (step : lexer.advance = .finished) :
    lexer.lexemes = [] ∧ lexer.run = ([], none, lexer) := by
  refine ⟨?_, run_of_finished step⟩
  rw [lexemes]
  split <;> simp_all

theorem lexemes_of_failed
    {error : Error}
    (step : lexer.advance = .failed error following) :
    lexer.lexemes = [] ∧ lexer.run = ([], some error, following) := by
  refine ⟨?_, run_of_failed step⟩
  rw [lexemes]
  split <;> simp_all

end

/-- The pieces of what is left of a document, with their tokens, up to its
end or to a fault. -/
inductive TakesAll :
    Lexer → List Lexeme → List Token → Option Error → Prop where
  | stops
      {lexer : Lexer}
      {fault : Option Error}
      (complete : fault = none → lexer.rest = []) :
      TakesAll lexer [] [] fault
  | piece
      {lexer following : Lexer}
      {lexeme : Lexeme}
      {lexemes : List Lexeme}
      {tokens : List Token}
      {fault : Option Error}
      (taken : TakesOff lexer lexeme following)
      (others : TakesAll following lexemes tokens fault) :
      TakesAll lexer (lexeme :: lexemes) (lexeme.token?.toList ++ tokens) fault

/-- A run takes the pieces of a document off one after another. -/
theorem takesAll_lexemes (lexer : Lexer) :
    TakesAll lexer lexer.lexemes lexer.run.1 lexer.run.2.1 := by
  have read := takesOffReading_advance lexer
  cases step : lexer.advance with
  | skipped following =>
      rw [step] at read
      rcases read with ⟨source, taken⟩
      rw [lexemes_of_skipped step taken.sourceUpTo_eq,
        (Reads.of_skipped step).run_eq]
      exact .piece taken (takesAll_lexemes following)
  | token token following =>
      rw [step] at read
      rcases read with ⟨source, taken⟩
      rw [lexemes_of_token step taken.sourceUpTo_eq,
        (Reads.of_token step).run_eq]
      exact .piece taken (takesAll_lexemes following)
  | finished =>
      rw [step] at read
      rw [(lexemes_of_finished step).1, (lexemes_of_finished step).2]
      exact .stops fun _ => read
  | failed error following =>
      rw [(lexemes_of_failed step).1, (lexemes_of_failed step).2]
      exact .stops (by simp)
termination_by lexer.rest.length
decreasing_by all_goals exact length_lt_of_advance (by simp [*, Reading.next?])

variable
  {lexer : Lexer}
  {lexemes : List Lexeme}
  {tokens : List Token}
  {fault : Option Error}

theorem TakesAll.tokens_eq
    (taken : TakesAll lexer lexemes tokens fault) :
    tokens = lexemes.filterMap Lexeme.token? := by
  induction taken with
  | stops => rfl
  | @piece lexer following lexeme lexemes tokens fault taken others
      induction_hypothesis =>
      rw [induction_hypothesis, List.filterMap_cons]
      cases lexeme.token? <;> rfl

/-- The sources of the pieces joined are the document, up to its fault. -/
theorem TakesAll.rest_eq
    (taken : TakesAll lexer lexemes tokens fault) :
    ∃ rest,
      lexer.rest = lexemes.flatMap Lexeme.source ++ rest ∧
      (fault = none → rest = []) := by
  induction taken with
  | @stops lexer fault complete => exact ⟨lexer.rest, rfl, complete⟩
  | piece taken others induction_hypothesis =>
      rcases induction_hypothesis with ⟨rest, rest_eq, complete⟩
      refine ⟨rest, ?_, complete⟩
      rw [taken.rest_eq, rest_eq, List.flatMap_cons, List.append_assoc]

/-- A token is spelled by its piece, and its line counts the line feeds of
all pieces before it, those of close tags excepted. -/
theorem TakesAll.line_eq
    {earlier later : List Lexeme}
    {lexeme : Lexeme}
    {token : Token}
    (taken : TakesAll lexer (earlier ++ lexeme :: later) tokens fault)
    (has_token : lexeme.token? = some token) :
    token.symbol.IsSpelledBy lexeme.source ∧
    token.line + (earlier.map Lexeme.uncountedLineFeeds).sum =
      lexer.line + Text.lineFeeds (earlier.flatMap Lexeme.source) := by
  induction earlier generalizing lexer tokens with
  | nil =>
      rcases taken with _ | ⟨taken, others⟩
      exact ⟨taken.spelled token has_token, taken.line_eq token has_token⟩
  | cons first earlier induction_hypothesis =>
      rcases taken with _ | ⟨taken, others⟩
      rcases induction_hypothesis others with ⟨spelled, line_eq⟩
      have line_following := taken.line_following
      refine ⟨spelled, ?_⟩
      rw [List.map_cons, List.sum_cons, List.flatMap_cons,
        Text.lineFeeds_append]
      omega

end Lexer

/-! ## Elements -/

/-- The tag and line of a token that begins an element. -/
def Token.opening? (token : Token) : Option (Text × Nat) :=
  match token.symbol with
  | .openTag tag => some (tag, token.line)
  | _ => none

/-- The tag and line of an item that begins an element. -/
def Item.opening? : Item → Option (Text × Nat)
  | .opened tag line => some (tag, line)
  | .point _ | .name _ | .value _ | .closed => none

mutual

/-- The tags and lines of the elements of a node, in the order in which they
begin. -/
def Node.openings : Node → List (Text × Nat)
  | .text _ => []
  | .element tag _ children line => (tag, line) :: siblingOpenings children

/-- The tags and lines of the elements of nodes one after another. -/
def siblingOpenings : List Node → List (Text × Nat)
  | [] => []
  | node :: nodes => node.openings ++ siblingOpenings nodes

end

theorem openings_of_points (value : Text) :
    (value.map Item.point).filterMap Item.opening? = [] := by
  induction value with
  | nil => rfl
  | cons point value induction_hypothesis => exact induction_hypothesis

theorem openings_of_attributeItems (attributes : Dictionary Text) :
    (attributeItems attributes).filterMap Item.opening? = [] := by
  induction attributes with
  | nil => rfl
  | cons pair attributes induction_hypothesis => exact induction_hypothesis

/-- The elements of nodes begin where the nodes say so. -/
theorem siblingOpenings_eq : (nodes : List Node) →
    siblingOpenings nodes = (siblingItems nodes).filterMap Item.opening?
  | [] => rfl
  | .text value :: nodes => by
      rw [siblingOpenings, Node.openings, siblingItems, Node.items,
        List.filterMap_append, openings_of_points, siblingOpenings_eq nodes]
  | .element tag attributes children line :: nodes => by
      rw [siblingOpenings, Node.openings, siblingItems, Node.items,
        siblingOpenings_eq nodes, siblingOpenings_eq children]
      simp [openings_of_attributeItems, List.filterMap_cons, Item.opening?]

theorem Token.openings_of_items (token : Token) :
    token.items.filterMap Item.opening? = token.opening?.toList := by
  unfold items opening?
  cases token.symbol with
  | text value => exact openings_of_points value
  | _ => rfl

/-- The elements of a document are those whose start tags are among its
tokens, in the same order, with the lines of these tokens. -/
theorem Parser.siblingOpenings_eq_of_parse
    {parser : Parser}
    {document : Text}
    {nodes : List Node}
    (parsed : (parser.parse document).1 = .ok nodes) :
    siblingOpenings nodes =
      (parser.lexer.load document).run.1.filterMap Token.opening? := by
  rcases parse_eq_ok_iff.1 parsed with ⟨tokens, tokenized, found⟩
  rcases Reader.nodes?_eq_some_iff.1 found with ⟨forest, derived, rfl⟩
  have tokens_eq : (parser.lexer.load document).run.1 = tokens := by
    rw [Lexer.tokenize] at tokenized
    split at tokenized
    · next run_eq =>
      rw [run_eq]
      exact Except.ok.inj tokenized
    · cases tokenized
  rw [siblingOpenings_eq, siblingItems_joinSiblings, derived.items_eq,
    tokens_eq, List.filterMap_flatMap, List.filterMap_eq_flatMap_toList]
  simp only [Token.openings_of_items]

/-! ## Lines -/

namespace Lexer

theorem advanceContent_of_openTag
    {text name rest : Text}
    {line : Nat}
    (noComment : Text.after? "<!--" text = none)
    (noDeclaration : Text.after? "<?" text = none)
    (noVerbatim : Text.after? "<![CDATA[" text = none)
    (noCloseTag : Text.after? "</" text = none)
    (found : (Text.after? "<" text).bind nameAtStart? = some (name, rest)) :
    advanceContent line text =
      .token ⟨.openTag name, line⟩ ⟨rest, .startTag, line⟩ := by
  have nonempty : text ≠ [] := by
    rintro rfl
    cases found
  rw [advanceContent_of_no_section nonempty noComment noDeclaration noVerbatim
    noCloseTag, startTagOrText, found]

/-- A document is taken off in pieces whose sources joined are the document,
up to the first fault if it has one, and whose tokens are those that are read.
Each token is spelled by its piece.  Its line is one more than the number of
line feeds before it, those inside earlier close tags not counted, and so it
is right if no close tag before it spans several lines.  The elements of a
document that is well formed begin with the start tags among its pieces, on
the lines of these. -/
theorem lexemes_lines
    (lexer : Lexer)
    (document : Text) :
    ((lexer.load document).run.1 =
      (lexer.load document).lexemes.filterMap Lexeme.token?) ∧
    (∃ rest,
      document = (lexer.load document).lexemes.flatMap Lexeme.source ++ rest ∧
      ((lexer.load document).run.2.1 = none → rest = [])) ∧
    (∀ earlier lexeme later token,
      (lexer.load document).lexemes = earlier ++ lexeme :: later →
      lexeme.token? = some token →
        token.symbol.IsSpelledBy lexeme.source ∧
        token.line + (earlier.map Lexeme.uncountedLineFeeds).sum =
          1 + Text.lineFeeds (earlier.flatMap Lexeme.source) ∧
        ((∀ before ∈ earlier, before.uncountedLineFeeds = 0) ↔
          token.line =
            1 + Text.lineFeeds (earlier.flatMap Lexeme.source))) ∧
    (∀ nodes,
      (Parser.parse ⟨lexer⟩ document).1 = .ok nodes →
        siblingOpenings nodes =
          (lexer.load document).lexemes.filterMap
            fun lexeme => lexeme.token?.bind Token.opening?) := by
  have taken := takesAll_lexemes (lexer.load document)
  refine ⟨taken.tokens_eq, taken.rest_eq, ?_, ?_⟩
  · intro earlier lexeme later token lexemes_eq has_token
    rw [lexemes_eq] at taken
    rcases taken.line_eq has_token with ⟨spelled, line_eq⟩
    refine ⟨spelled, line_eq, ?_⟩
    have all_counted :
        (∀ before ∈ earlier, before.uncountedLineFeeds = 0) ↔
          (earlier.map Lexeme.uncountedLineFeeds).sum = 0 := by
      rw [List.sum_eq_zero_iff, List.forall_mem_map]
    rw [all_counted]
    change token.line + _ = 1 + _ at line_eq
    omega
  · intro nodes parsed
    rw [Parser.siblingOpenings_eq_of_parse parsed]
    show (lexer.load document).run.1.filterMap _ = _
    rw [taken.tokens_eq, List.filterMap_filterMap]

/-- A close tag that ends on another line than it begins makes all lines
behind it too small: here `b` stands on the second line and is given the
first. -/
theorem not_line_eq_of_spanning_closeTag :
    ¬ ∀ document earlier lexeme later token,
      (Lexer.load {} document).lexemes = earlier ++ lexeme :: later →
      lexeme.token? = some token →
        token.line =
          1 + Text.lineFeeds (earlier.flatMap Lexeme.source) := by
  intro line_eq
  have named_a : (Text.after? "<" "<a></a\n><b/>").bind nameAtStart? =
      some (("a" : Text), ("></a\n><b/>" : Text)) := by
    decide
  have opened_a : advance ⟨"<a></a\n><b/>", .content, 1⟩ = _ :=
    advanceContent_of_openTag rfl rfl rfl rfl named_a
  have ended_a : advance ⟨"></a\n><b/>", .startTag, 1⟩ =
      .token ⟨.tagEnd, 1⟩ ⟨"</a\n><b/>", .content, 1⟩ :=
    rfl
  have found_a : closeTagAtStart? "</a\n><b/>" =
      some (("a" : Text), ("<b/>" : Text)) := by
    decide
  have closed_a : advance ⟨"</a\n><b/>", .content, 1⟩ = _ :=
    advanceContent_of_closeTag rfl rfl rfl found_a
  have named_b : (Text.after? "<" "<b/>").bind nameAtStart? =
      some (("b" : Text), ("/>" : Text)) := by
    decide
  have opened_b : advance ⟨"<b/>", .content, 1⟩ = _ :=
    advanceContent_of_openTag rfl rfl rfl rfl named_b
  have lexemes_eq : (Lexer.load {} "<a></a\n><b/>").lexemes =
      [⟨"<a", some ⟨.openTag "a", 1⟩⟩, ⟨">", some ⟨.tagEnd, 1⟩⟩,
        ⟨"</a\n>", some ⟨.closeTag "a", 1⟩⟩] ++
      ⟨"<b", some ⟨.openTag "b", 1⟩⟩ ::
        (Lexer.mk "/>" .startTag 1).lexemes := by
    have first : (Lexer.load {} "<a></a\n><b/>").lexemes = _ :=
      lexemes_of_token opened_a rfl
    rw [first, lexemes_of_token ended_a rfl, lexemes_of_token closed_a rfl,
      lexemes_of_token opened_b rfl]
    rfl
  exact absurd (line_eq _ _ _ _ _ lexemes_eq rfl) (by decide)

end Lexer

end Markup

end AnnotatedSql
