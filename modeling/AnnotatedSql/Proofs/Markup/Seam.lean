import AnnotatedSql.Proofs.Markup.Following
import AnnotatedSql.Proofs.Markup.LineNumbers
import AnnotatedSql.Proofs.Markup.LineShift
import AnnotatedSql.Proofs.Markup.SpelledPieces

/-!
# Comments and declarations between two documents

A comment or a declaration begins with markup, so what stands before it is
read as if the document ended there.  It ends where its end is first written,
whatever else it holds, and leaves the lexer in the content, as at the start
of a document but further down.  So the tokens of a document with an aside in
it are those of the part before and those of the part behind, and nothing
tells one aside from another but the lines of what follows.
-/

namespace AnnotatedSql.Markup

/-! ## Asides -/

/-- A comment or a declaration, whose end is not written inside it. -/
inductive Aside where
  | comment
      (inside : Text)
      (closed : Text.occursIn "-->" inside = false)
  | declaration
      (inside : Text)
      (closed : Text.occursIn "?>" inside = false)

namespace Aside

/-- What stands between the marks of an aside. -/
def inside : Aside → Text
  | comment inside _ => inside
  | declaration inside _ => inside

/-- An aside as it stands in a document. -/
def spelling : Aside → Text
  | comment inside _ => "<!--" ++ (inside ++ "-->")
  | declaration inside _ => "<?" ++ (inside ++ "?>")

theorem startsMarkup
    (aside : Aside)
    (after : Text) :
    StartsMarkup (aside.spelling ++ after) := by
  cases aside with
  | comment inside closed => exact ⟨_, rfl, rfl⟩
  | declaration inside closed => exact ⟨_, rfl, rfl⟩

end Aside

namespace Lexer

/-- An aside has no tokens, and the lines of its inside. -/
theorem Reads.aside
    (aside : Aside)
    (after : Text)
    (line : Nat) :
    Reads ⟨aside.spelling ++ after, .content, line⟩ []
      ⟨after, .content, line + aside.inside.lineFeeds⟩ := by
  cases aside with
  | comment inside closed =>
      rw [Aside.spelling, List.append_assoc, List.append_assoc]
      exact .comment closed after line
  | declaration inside closed =>
      rw [Aside.spelling, List.append_assoc, List.append_assoc]
      exact .declaration closed after line

/-! ## Up to the seam -/

variable
    {lexer behind : Lexer}
    {tokens : List Token}
    {before document after : Text}
    {lines : Nat}

/-- A document without a fault is read to its end. -/
theorem reads_of_tokenize
    (tokenized : lexer.tokenize before = (.ok tokens, behind)) :
    Reads ⟨before, .content, 1⟩ tokens behind ∧
      behind.rest = [] ∧ 1 ≤ behind.line := by
  have run_eq :
      (⟨before, .content, 1⟩ : Lexer).run = (tokens, none, behind) := by
    rw [tokenize] at tokenized
    split at tokenized
    · next run_eq =>
      cases tokenized
      exact run_eq
    · cases tokenized
  rcases reads_of_run _ run_eq with ⟨read, finished⟩
  refine ⟨read, ?_, ?_⟩
  · have takesOff := takesOffReading_advance behind
    rw [finished] at takesOff
    exact takesOff
  · -- The same document, read one line further up, ends one line further up.
    have moved := run_movedBy ⟨before, .content, 0⟩ 1
    have behind_eq := congrArg (fun outcome => outcome.2.2.line)
      (run_eq.symm.trans moved)
    rw [behind_eq]
    exact Nat.le_add_left 1 _

/-- Behind an aside the lexer stands as at the start of a document, further
down. -/
theorem reads_across_aside
    (tokenized : lexer.tokenize before = (.ok tokens, behind))
    (inContent : behind.mode = .content)
    (aside : Aside)
    (after : Text) :
    Reads ⟨before ++ (aside.spelling ++ after), .content, 1⟩ tokens
      ((⟨after, .content, 1⟩ : Lexer).movedBy
        (behind.line - 1 + aside.inside.lineFeeds)) := by
  rcases reads_of_tokenize tokenized with ⟨read, atEnd, line_pos⟩
  rcases behind with ⟨_, _, line⟩
  cases atEnd
  cases inContent
  have line_eq :
      1 + (line - 1 + aside.inside.lineFeeds) =
        line + aside.inside.lineFeeds := by
    rw [← Nat.add_assoc, Nat.add_sub_cancel' line_pos]
  have crossed :=
    (read.followedBy (aside.startsMarkup after)).trans (.aside aside after line)
  rw [List.append_nil, ← line_eq] at crossed
  exact crossed

/-- From the start of a document further down, its tokens or its fault are
read, further down. -/
theorem Reads.fst_tokenize_of_movedBy
    (read :
      Reads ⟨document, .content, 1⟩ tokens
        ((⟨after, .content, 1⟩ : Lexer).movedBy lines))
    (lexer : Lexer) :
    (lexer.tokenize document).1 =
      match (lexer.tokenize after).1 with
      | .ok later => .ok (tokens ++ later.map (Token.movedBy lines))
      | .error error => .error (error.movedBy lines) := by
  have run_eq : (lexer.load document).run = _ := read.run_eq
  have run_after : (lexer.load after).run =
      (⟨after, .content, 1⟩ : Lexer).run := rfl
  rw [run_movedBy] at run_eq
  rw [tokenize, tokenize, run_eq, run_after]
  rcases (⟨after, .content, 1⟩ : Lexer).run with ⟨later, fault, last⟩
  cases fault <;> rfl

end Lexer

/-! ## Nodes across the seam -/

/-- Nodes that differ in nothing but the lines of their elements. -/
def SameUpToLines (nodes nodes' : List Node) : Prop :=
  siblingsWithoutLines nodes = siblingsWithoutLines nodes'

section

variable
    {tokens tokens' : List Token}

/-- Outcomes of reading tokens that say the same agree up to lines. -/
theorem agree_of_symbols
    {outcome outcome' : Except Error (List Node)}
    (read :
      ∀ nodes,
        outcome = .ok nodes ↔ Reader.nodes? {} tokens = some nodes)
    (read' :
      ∀ nodes,
        outcome' = .ok nodes ↔ Reader.nodes? {} tokens' = some nodes)
    (same : tokens'.map Token.symbol = tokens.map Token.symbol) :
    Outcome.Agree SameUpToLines outcome outcome' := by
  apply Outcome.Agree.of_ok
  · intro nodes succeeded
    rcases Reader.nodes?_of_symbols ((read nodes).1 succeeded) same with
      ⟨nodes', found', nodes_eq⟩
    exact ⟨nodes', (read' nodes').2 found', nodes_eq.symm⟩
  · intro nodes' succeeded
    rcases Reader.nodes?_of_symbols ((read' nodes').1 succeeded) same.symm with
      ⟨nodes, found, nodes_eq⟩
    exact ⟨nodes, (read nodes).2 found⟩

theorem nodesOfTokens_eq_ok_iff
    {nodes : List Node} :
    nodesOfTokens tokens none {} = .ok nodes ↔
      Reader.nodes? {} tokens = some nodes := by
  unfold Reader.nodes? nodesOfTokens
  cases tokens.foldlM Reader.read {} >>= Reader.finish <;>
    simp [Except.toOption]

namespace Parser

variable
    {parser : Parser}
    {lexer : Lexer}
    {document : Text}

theorem parse_eq_ok_iff_of_tokenize
    (tokenized : (lexer.tokenize document).1 = .ok tokens)
    (nodes : List Node) :
    (parser.parse document).1 = .ok nodes ↔
      Reader.nodes? {} tokens = some nodes := by
  have tokenized : (parser.lexer.tokenize document).1 = .ok tokens :=
    tokenized
  rw [parse_eq_ok_iff, tokenized]
  simp

/-- A document with a fault in its tokens is not read. -/
theorem parse_ne_ok_of_tokenize
    {error : Error}
    (refused : (lexer.tokenize document).1 = .error error)
    (nodes : List Node) :
    (parser.parse document).1 ≠ .ok nodes := by
  intro succeeded
  rcases parse_eq_ok_iff.1 succeeded with ⟨tokens, tokenized, _⟩
  exact nomatch (refused.symm.trans tokenized)

theorem separated_of_parse
    {nodes : List Node}
    (parsed : (parser.parse document).1 = .ok nodes) :
    Separated nodes := by
  rcases parse_eq_ok_iff.1 parsed with ⟨tokens, _, found⟩
  rcases Reader.nodes?_eq_some_iff.1 found with ⟨forest, _, rfl⟩
  exact separated_joinSiblings forest

end Parser

end

/-- Text in two tokens, with tokens before and behind, is read as in one. -/
theorem nodes?_joined_texts
    (earlier later : List Token)
    (value value' : Text)
    (line line' : Nat) :
    Reader.nodes? {}
        (earlier ++ [⟨.text value, line⟩] ++ ⟨.text value', line'⟩ :: later) =
      Reader.nodes? {}
        (earlier ++ ⟨.text (value ++ value'), line⟩ :: later) := by
  rw [List.append_assoc]
  exact Reader.nodes?_append_congr
    (fun reader => reader.nodes?_texts value value' line line' line) earlier {}

section

variable
    {lexer behind : Lexer}
    {tokens : List Token}
    {before : Text}

/-- The tokens on both sides of an aside follow each other. -/
theorem tokenize_across_aside
    (tokenized : lexer.tokenize before = (.ok tokens, behind))
    (inContent : behind.mode = .content)
    (aside : Aside)
    (after : Text) :
    let lines := behind.line - 1 + aside.inside.lineFeeds
    (lexer.tokenize (before ++ (aside.spelling ++ after))).1 =
      match (lexer.tokenize after).1 with
      | .ok later => .ok (tokens ++ later.map (Token.movedBy lines))
      | .error error => .error (error.movedBy lines) :=
  (Lexer.reads_across_aside tokenized inContent aside
    after).fst_tokenize_of_movedBy lexer

/-- No aside can be told from another. -/
theorem agree_across_asides
    (tokenized : lexer.tokenize before = (.ok tokens, behind))
    (inContent : behind.mode = .content)
    (parser : Parser)
    (aside aside' : Aside)
    (after : Text) :
    Outcome.Agree SameUpToLines
      (parser.parse (before ++ (aside.spelling ++ after))).1
      (parser.parse (before ++ (aside'.spelling ++ after))).1 := by
  have first := tokenize_across_aside tokenized inContent aside after
  have second := tokenize_across_aside tokenized inContent aside' after
  cases outcome : (lexer.tokenize after).1 with
  | error error =>
      simp only [outcome] at first second
      apply Outcome.Agree.of_ok
      · intro nodes parsed
        exact (Parser.parse_ne_ok_of_tokenize first nodes parsed).elim
      · intro nodes parsed
        exact (Parser.parse_ne_ok_of_tokenize second nodes parsed).elim
  | ok later =>
      simp only [outcome] at first second
      refine agree_of_symbols (Parser.parse_eq_ok_iff_of_tokenize first)
        (Parser.parse_eq_ok_iff_of_tokenize second) ?_
      rw [List.map_append, List.map_append, map_symbol_movedBy,
        map_symbol_movedBy]

/-- Text on both sides of an aside is read as if it stood in one token. -/
theorem agree_of_texts_across_aside
    {earlier later : List Token}
    {value value' after : Text}
    {line line' : Nat}
    (tokenized :
      lexer.tokenize before =
        (.ok (earlier ++ [⟨.text value, line⟩]), behind))
    (inContent : behind.mode = .content)
    (tokenized_after :
      (lexer.tokenize after).1 = .ok (⟨.text value', line'⟩ :: later))
    (parser : Parser)
    (aside : Aside) :
    Outcome.Agree SameUpToLines
      (parser.parse (before ++ (aside.spelling ++ after))).1
      (nodesOfTokens (earlier ++ ⟨.text (value ++ value'), line⟩ :: later)
        none {}) := by
  have tokens_eq := tokenize_across_aside tokenized inContent aside after
  simp only [tokenized_after, List.map_cons] at tokens_eq
  have read (nodes : List Node) :
      (parser.parse (before ++ (aside.spelling ++ after))).1 = .ok nodes ↔ _ :=
    (Parser.parse_eq_ok_iff_of_tokenize tokens_eq nodes).trans
      (iff_of_eq (congrArg (· = some nodes)
        (nodes?_joined_texts earlier _ value value' line _)))
  refine agree_of_symbols read (fun nodes => nodesOfTokens_eq_ok_iff) ?_
  rw [List.map_append, List.map_append, List.map_cons, List.map_cons,
    map_symbol_movedBy]

end

/-- A comment or declaration behind a document that ends in the content, and
in front of any other, leaves no trace but in the lines of what follows.  The
tokens are those of the one document and then those of the other, or there is
the other's fault.  Any two asides at this place have documents that fail
alike or hold the same nodes; and text on both sides of the place is one text
node, since the document is read as if the text stood in one token, and no
texts are neighbours. -/
theorem asides_unseen
    {before : Text}
    {tokens : List Token}
    {behind : Lexer}
    (lexer : Lexer)
    (tokenized : lexer.tokenize before = (.ok tokens, behind))
    (inContent : behind.mode = .content)
    (parser : Parser)
    (after : Text) :
    (∀ aside : Aside,
      let lines := behind.line - 1 + aside.inside.lineFeeds
      (lexer.tokenize (before ++ (aside.spelling ++ after))).1 =
        match (lexer.tokenize after).1 with
        | .ok later => .ok (tokens ++ later.map (Token.movedBy lines))
        | .error error => .error (error.movedBy lines)) ∧
    (∀ aside aside' : Aside,
      Outcome.Agree SameUpToLines
        (parser.parse (before ++ (aside.spelling ++ after))).1
        (parser.parse (before ++ (aside'.spelling ++ after))).1) ∧
    (∀ (aside : Aside) (nodes : List Node),
      (parser.parse (before ++ (aside.spelling ++ after))).1 = .ok nodes →
      Separated nodes) ∧
    (∀ (aside : Aside) (earlier later : List Token) (value value' : Text)
        (line line' : Nat),
      tokens = earlier ++ [⟨.text value, line⟩] →
      (lexer.tokenize after).1 = .ok (⟨.text value', line'⟩ :: later) →
      Outcome.Agree SameUpToLines
        (parser.parse (before ++ (aside.spelling ++ after))).1
        (nodesOfTokens (earlier ++ ⟨.text (value ++ value'), line⟩ :: later)
          none {})) := by
  refine ⟨?_, ?_, ?_, ?_⟩
  · intro aside
    exact tokenize_across_aside tokenized inContent aside after
  · intro aside aside'
    exact agree_across_asides tokenized inContent parser aside aside' after
  · intro aside nodes parsed
    exact Parser.separated_of_parse parsed
  · rintro aside earlier later value value' line line' rfl tokenized_after
    exact agree_of_texts_across_aside tokenized inContent tokenized_after
      parser aside

/-- A comment that holds markup, quotes and a reference, in the text of an
element. -/
theorem asides_unseen_in_text :
    Lexer.tokenize {} "<a>x" =
      (.ok [⟨.openTag "a", 1⟩, ⟨.tagEnd, 1⟩, ⟨.text "x", 1⟩],
        ⟨[], .content, 1⟩) ∧
    (⟨[], .content, 1⟩ : Lexer).mode = .content ∧
    (Lexer.tokenize {} "<a>x<!--<b c='&lt;\n--\">-->y</a>").1 =
      .ok [⟨.openTag "a", 1⟩, ⟨.tagEnd, 1⟩, ⟨.text "x", 1⟩, ⟨.text "y", 2⟩,
        ⟨.closeTag "a", 2⟩] ∧
    ∃ nodes,
      (Parser.parse {} "<a>x<!--<b c='&lt;\n--\">-->y</a>").1 = .ok nodes ∧
      SameUpToLines nodes [.element "a" [] [.text "xy"] 1] := by
  have tokenized :
      Lexer.tokenize {} "<a>x" =
        (.ok [⟨.openTag "a", 1⟩, ⟨.tagEnd, 1⟩, ⟨.text "x", 1⟩],
          ⟨[], .content, 1⟩) := by
    have text_x :
        Lexer.Reads ⟨"x", .content, 1⟩ [⟨.text "x", 1⟩] ⟨[], .content, 1⟩ :=
      @Lexer.Reads.text [] 1 "x" (by decide) (.inl rfl)
    exact Lexer.Reads.tokenize_ending (.token rfl (.token rfl text_x))
  have tokenized_after :
      (Lexer.tokenize {} "y</a>").1 =
        .ok [⟨.text "y", 1⟩, ⟨.closeTag "a", 1⟩] := by
    have text_y :
        Lexer.Reads ⟨"y</a>", .content, 1⟩ [⟨.text "y", 1⟩]
          ⟨"</a>", .content, 1⟩ :=
      @Lexer.Reads.text "</a>" 1 "y" (by decide) (endsText_closeTag "a>")
    exact (text_y.trans (.of_token rfl)).tokenize_eq
  have joined_eq :
      nodesOfTokens [⟨.openTag "a", 1⟩, ⟨.tagEnd, 1⟩, ⟨.text "xy", 1⟩,
        ⟨.closeTag "a", 1⟩] none {} =
        .ok [.element "a" [] [.text "xy"] 1] :=
    rfl
  let aside : Aside := .comment "<b c='&lt;\n--\">" rfl
  rcases asides_unseen {} tokenized rfl {} "y</a>" with
    ⟨tokens_eq, _, _, joined⟩
  refine ⟨tokenized, rfl, ?_, ?_⟩
  · have across := tokens_eq aside
    rw [tokenized_after] at across
    exact across
  · have agree := joined aside [⟨.openTag "a", 1⟩, ⟨.tagEnd, 1⟩]
      [⟨.closeTag "a", 1⟩] "x" "y" 1 1 rfl tokenized_after
    rcases agree.exists_ok_iff.2 ⟨_, joined_eq⟩ with ⟨nodes, parsed⟩
    rw [parsed] at agree
    rcases agree.ok_left with ⟨nodes', nodes'_eq, same⟩
    cases joined_eq.symm.trans nodes'_eq
    exact ⟨nodes, parsed, same⟩

end AnnotatedSql.Markup
