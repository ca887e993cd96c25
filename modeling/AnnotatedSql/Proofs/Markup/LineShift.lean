import AnnotatedSql.Proofs.Markup.Pieces
import AnnotatedSql.Proofs.Markup.RoundTrip

/-!
# Lines moved and forgotten

A lexer counts lines, but never looks at the count.  When it stands further
down it reads the same, further down: the tokens, the fault and the lexer
behind them all move by the same number of lines.

The grammar does not look at lines either.  Tokens that say the same have
derivations that differ in nothing but the lines of their elements, so they
are read alike up to these lines.
-/

namespace AnnotatedSql.Markup

/-! ## Further down -/

/-- A token further down by a number of lines. -/
def Token.movedBy (lines : Nat) (token : Token) : Token :=
  { token with line := token.line + lines }

/-- A fault further down by a number of lines, if it names its line. -/
def Error.movedBy (lines : Nat) : Error → Error
  | .invalidReference spelling => .invalidReference spelling
  | .illegalMarkup excerpt line => .illegalMarkup excerpt (line + lines)
  | .illegalCharacter found line => .illegalCharacter found (line + lines)
  | .unexpectedToken value line => .unexpectedToken value (line + lines)
  | .unexpectedEnd => .unexpectedEnd
  | .mismatchedCloseTag expected found line =>
      .mismatchedCloseTag expected found (line + lines)
  | .duplicateAttribute name line => .duplicateAttribute name (line + lines)

/-- A lexer further down by a number of lines, with the same left to read. -/
def Lexer.movedBy (lines : Nat) (lexer : Lexer) : Lexer :=
  { lexer with line := lexer.line + lines }

/-- What is read further down by a number of lines. -/
def Reading.movedBy (lines : Nat) : Reading → Reading
  | .finished => .finished
  | .skipped next => .skipped (next.movedBy lines)
  | .token found next => .token (found.movedBy lines) (next.movedBy lines)
  | .failed error next => .failed (error.movedBy lines) (next.movedBy lines)

/-- A reference without a code point is the only fault of a text, and it does
not name its line. -/
theorem exists_invalidReference_of_decodeReferences
    {text : Text}
    {error : Error}
    (refused : decodeReferences text = .error error) :
    ∃ spelling, error = .invalidReference spelling := by
  induction text using decodeReferences.induct with
  | case1 =>
      rw [decodeReferences] at refused
      cases refused
  | case2 text reference rest found point denotes induction_hypothesis =>
      rw [decodeReferences, if_pos rfl] at refused
      split at refused <;> simp_all [Outcome.map_eq_error_iff]
  | case3 text reference rest found notDenoted =>
      rw [decodeReferences, if_pos rfl] at refused
      split at refused <;> simp_all
      exact ⟨_, refused.symm⟩
  | case4 text notFound induction_hypothesis =>
      rw [decodeReferences, if_pos rfl] at refused
      split at refused <;> simp_all [Outcome.map_eq_error_iff]
  | case5 first text notMark induction_hypothesis =>
      rw [decodeReferences, if_neg notMark] at refused
      exact induction_hypothesis (Outcome.map_eq_error_iff.1 refused)

namespace Lexer

variable
    {line : Nat}

@[simp]
theorem movedBy_decoded
    (symbol : Text → Symbol)
    (value : Text)
    (line : Nat)
    (next : Lexer)
    (lines : Nat) :
    (decoded symbol value line next).movedBy lines =
      decoded symbol value (line + lines) (next.movedBy lines) := by
  unfold decoded
  split
  · rfl
  · next error refused =>
    rcases exists_invalidReference_of_decodeReferences refused with
      ⟨spelling, rfl⟩
    rfl

theorem advanceContent_movedBy
    (line lines : Nat)
    (text : Text) :
    advanceContent (line + lines) text =
      (advanceContent line text).movedBy lines := by
  have piece := contentPiece_advanceContent line text
  rw [← contentPiece_iff]
  generalize advanceContent line text = reading at piece ⊢
  cases piece with
  | finished => exact .finished
  | @enclosed kind body inside rest cut =>
      have moved : (kind.reading line inside rest).movedBy lines =
          kind.reading (line + lines) inside rest := by
        cases kind <;>
          simp [SectionKind.reading, Reading.movedBy, movedBy, Token.movedBy,
            Nat.add_right_comm]
      rw [moved]
      exact .enclosed kind cut
  | closeTag found => exact .closeTag found
  | openTag found => exact .openTag found
  | text found =>
      rw [movedBy_decoded, movedBy, Nat.add_right_comm]
      exact .text found
  | unclosed unclosed => exact .unclosed unclosed

theorem advanceStartTag_movedBy
    (line lines : Nat)
    (text : Text) :
    advanceStartTag (line + lines) text =
      (advanceStartTag line text).movedBy lines := by
  have piece := startTagPiece_advanceStartTag line text
  rw [← startTagPiece_iff]
  generalize advanceStartTag line text = reading at piece ⊢
  cases piece with
  | finished => exact .finished
  | space isSpace => exact .space isSpace
  | lineFeed =>
      rw [Reading.movedBy, movedBy, Nat.add_right_comm]
      exact .lineFeed
  | selfClose => exact .selfClose
  | tagEnd => exact .tagEnd
  | equals => exact .equals
  | name found => exact .name found
  | string isQuote cut =>
      rw [movedBy_decoded, movedBy, Nat.add_right_comm]
      exact .string isQuote cut
  | illegal illegal => exact .illegal illegal

/-- A piece is read alike further down. -/
theorem advance_movedBy
    (lexer : Lexer)
    (lines : Nat) :
    (lexer.movedBy lines).advance = lexer.advance.movedBy lines := by
  rcases lexer with ⟨rest, mode, line⟩
  cases mode with
  | content => exact advanceContent_movedBy line lines rest
  | startTag => exact advanceStartTag_movedBy line lines rest

/-- All that is left is read alike further down. -/
theorem run_movedBy
    (lexer : Lexer)
    (lines : Nat) :
    (lexer.movedBy lines).run =
      (lexer.run.1.map (Token.movedBy lines),
        lexer.run.2.1.map (Error.movedBy lines),
        lexer.run.2.2.movedBy lines) := by
  have moved := advance_movedBy lexer lines
  cases step : lexer.advance with
  | finished =>
      rw [step] at moved
      rw [run_of_finished step, run_of_finished moved]
      rfl
  | skipped following =>
      rw [step] at moved
      rw [(Reads.of_skipped step).run_eq, (Reads.of_skipped moved).run_eq,
        run_movedBy following lines]
      rfl
  | token token following =>
      rw [step] at moved
      rw [(Reads.of_token step).run_eq, (Reads.of_token moved).run_eq,
        run_movedBy following lines]
      rfl
  | failed error following =>
      rw [step] at moved
      rw [run_of_failed step, run_of_failed moved]
      rfl
termination_by lexer.rest.length
decreasing_by all_goals exact length_lt_of_advance (by simp [*, Reading.next?])

end Lexer

/-! ## Lines forgotten -/

/-- A token further down says the same. -/
@[simp]
theorem map_symbol_movedBy
    (tokens : List Token)
    (lines : Nat) :
    (tokens.map (Token.movedBy lines)).map Token.symbol =
      tokens.map Token.symbol := by
  rw [List.map_map]
  rfl

theorem siblingsWithoutLines_joinSiblings : (nodes : List Node) →
    siblingsWithoutLines (joinSiblings nodes) =
      joinSiblings (siblingsWithoutLines nodes)
  | [] => rfl
  | .text value :: nodes => by
      rw [joinSiblings, siblingsWithoutLines_joinFirst,
        siblingsWithoutLines_joinSiblings nodes]
      rfl
  | .element tag attributes children line :: nodes => by
      rw [joinSiblings, siblingsWithoutLines_joinFirst,
        siblingsWithoutLines_joinSiblings nodes, Node.joined,
        Node.withoutLines, siblingsWithoutLines_joinSiblings children]
      rfl

section

variable
    {tokens tokens' : List Token}

theorem exists_of_map_symbol_eq_cons
    {symbol : Symbol}
    {symbols : List Symbol}
    (same : tokens.map Token.symbol = symbol :: symbols) :
    ∃ line others,
      tokens = ⟨symbol, line⟩ :: others ∧
      others.map Token.symbol = symbols := by
  rcases List.map_eq_cons_iff.1 same with
    ⟨⟨_, line⟩, others, rfl, rfl, others_same⟩
  exact ⟨line, others, rfl, others_same⟩

/-- Attributes have no lines of their own. -/
theorem DerivesAttributes.of_symbols
    {attributes : Dictionary Text}
    (derived : DerivesAttributes tokens attributes)
    (same : tokens'.map Token.symbol = tokens.map Token.symbol) :
    DerivesAttributes tokens' attributes := by
  induction derived generalizing tokens' with
  | none =>
      rw [List.map_nil, List.map_eq_nil_iff] at same
      rw [same]
      exact .none
  | named name value nameLine equalsLine valueLine others
      induction_hypothesis =>
      rcases exists_of_map_symbol_eq_cons same with
        ⟨nameLine', _, rfl, afterName⟩
      rcases exists_of_map_symbol_eq_cons afterName with
        ⟨equalsLine', _, rfl, afterEquals⟩
      rcases exists_of_map_symbol_eq_cons afterEquals with
        ⟨valueLine', _, rfl, afterValue⟩
      exact .named name value nameLine' equalsLine' valueLine'
        (induction_hypothesis afterValue)

/-- Tokens that say the same have the same derivation, up to lines. -/
theorem Derives.of_symbols
    {nodes : List Node}
    (derived : Derives tokens nodes)
    (same : tokens'.map Token.symbol = tokens.map Token.symbol) :
    ∃ nodes',
      Derives tokens' nodes' ∧
      siblingsWithoutLines nodes' = siblingsWithoutLines nodes := by
  induction derived generalizing tokens' with
  | empty =>
      rw [List.map_nil, List.map_eq_nil_iff] at same
      rw [same]
      exact ⟨[], .empty, rfl⟩
  | text value line others induction_hypothesis =>
      rcases exists_of_map_symbol_eq_cons same with
        ⟨line', _, rfl, others_same⟩
      rcases induction_hypothesis others_same with ⟨nodes', derived', nodes_eq⟩
      refine ⟨_, .text value line' derived', ?_⟩
      rw [siblingsWithoutLines, siblingsWithoutLines, nodes_eq]
  | selfClosed tag line endLine derived distinct others induction_hypothesis =>
      rw [List.map_cons, List.map_append] at same
      rcases exists_of_map_symbol_eq_cons same with
        ⟨line', _, rfl, afterTag⟩
      rcases List.map_eq_append_iff.1 afterTag with
        ⟨_, _, rfl, attributes_same, afterAttributes⟩
      rcases exists_of_map_symbol_eq_cons afterAttributes with
        ⟨endLine', _, rfl, others_same⟩
      rcases induction_hypothesis others_same with ⟨nodes', derived', nodes_eq⟩
      refine ⟨_, .selfClosed tag line' endLine'
        (derived.of_symbols attributes_same) distinct derived', ?_⟩
      rw [siblingsWithoutLines, siblingsWithoutLines, nodes_eq]
      rfl
  | paired tag line endLine closeLine derived distinct content others
      content_hypothesis others_hypothesis =>
      rw [List.map_cons, List.map_append, List.map_cons, List.map_append]
        at same
      rcases exists_of_map_symbol_eq_cons same with
        ⟨line', _, rfl, afterTag⟩
      rcases List.map_eq_append_iff.1 afterTag with
        ⟨_, _, rfl, attributes_same, afterAttributes⟩
      rcases exists_of_map_symbol_eq_cons afterAttributes with
        ⟨endLine', _, rfl, afterStart⟩
      rcases List.map_eq_append_iff.1 afterStart with
        ⟨_, _, rfl, inside_same, afterInside⟩
      rcases exists_of_map_symbol_eq_cons afterInside with
        ⟨closeLine', _, rfl, others_same⟩
      rcases content_hypothesis inside_same with
        ⟨children', content', children_eq⟩
      rcases others_hypothesis others_same with ⟨nodes', derived', nodes_eq⟩
      refine ⟨_, .paired tag line' endLine' closeLine'
        (derived.of_symbols attributes_same) distinct content' derived', ?_⟩
      rw [siblingsWithoutLines, siblingsWithoutLines, nodes_eq,
        Node.withoutLines, Node.withoutLines, children_eq]

/-- Tokens that say the same are read as the same nodes, up to lines. -/
theorem Reader.nodes?_of_symbols
    {nodes : List Node}
    (found : nodes? {} tokens = some nodes)
    (same : tokens'.map Token.symbol = tokens.map Token.symbol) :
    ∃ nodes',
      nodes? {} tokens' = some nodes' ∧
      siblingsWithoutLines nodes' = siblingsWithoutLines nodes := by
  rcases nodes?_eq_some_iff.1 found with ⟨forest, derived, rfl⟩
  rcases derived.of_symbols same with ⟨forest', derived', forest_eq⟩
  refine ⟨joinSiblings forest',
    nodes?_eq_some_iff.2 ⟨forest', derived', rfl⟩, ?_⟩
  rw [siblingsWithoutLines_joinSiblings, siblingsWithoutLines_joinSiblings,
    forest_eq]

end

end AnnotatedSql.Markup
