import AnnotatedSql.Proofs.Markup.Reading
import AnnotatedSql.Proofs.Markup.SpelledPieces
import AnnotatedSql.Proofs.Markup.Spelling

/-!
# Nodes are read back from their spelling

Every document that writes nodes is read as those nodes, whatever spelling
was chosen, with the lines of the document.  The lexer is followed through
the document in the order in which it was put together; a spelling is always
read in front of what follows it, since a name or a text goes on as far as it
can.  The tokens then have a derivation, in which the pieces of one text are
neighbours, and joining them gives the text.
-/

namespace AnnotatedSql.Markup

/-! ## Derivations one after another -/

theorem Derives.append
    {tokens tokens' : List Token}
    {nodes nodes' : List Node}
    (first : Derives tokens nodes)
    (second : Derives tokens' nodes') :
    Derives (tokens ++ tokens') (nodes ++ nodes') := by
  induction first with
  | empty => exact second
  | text value line others induction_hypothesis =>
      exact .text value line induction_hypothesis
  | selfClosed tag line endLine derived distinct others induction_hypothesis =>
      have appended :=
        Derives.selfClosed tag line endLine derived distinct
          induction_hypothesis
      simpa using appended
  | paired tag line endLine closeLine derived distinct content others _
      induction_hypothesis =>
      have appended :=
        Derives.paired tag line endLine closeLine derived distinct content
          induction_hypothesis
      simpa using appended

/-! ## Text in pieces -/

@[simp]
theorem joinFirst_text_text
    (value value' : Text)
    (nodes : List Node) :
    joinFirst (.text value) (joinFirst (.text value') nodes) =
      joinFirst (.text (value ++ value')) nodes := by
  rcases nodes with _ | ⟨_ | _, nodes⟩ <;> simp [joinFirst]

/-- Neighbouring texts are joined to one. -/
theorem joinSiblings_texts_append
    {values : List Text}
    (nonempty : values ≠ [])
    (nodes : List Node) :
    joinSiblings (values.map .text ++ nodes) =
      joinFirst (.text values.flatten) (joinSiblings nodes) := by
  induction values with
  | nil => exact absurd rfl nonempty
  | cons value values induction_hypothesis =>
      rw [List.map_cons, List.cons_append, joinSiblings, Node.joined]
      by_cases last : values = []
      · simp [last]
      · rw [induction_hypothesis last, joinFirst_text_text, List.flatten_cons]

/-- Text tokens are read from one place of a document to a later one, and
together they say a text. -/
def ReadsText (lexer : Lexer) (value : Text) (last : Lexer) : Prop :=
  ∃ (tokens : List Token) (values : List Text),
    lexer.Reads tokens last ∧
    Derives tokens (values.map .text) ∧
    values.flatten = value

theorem ReadsText.trans
    {lexer middle last : Lexer}
    {value value' : Text}
    (first : ReadsText lexer value middle)
    (second : ReadsText middle value' last) :
    ReadsText lexer (value ++ value') last := by
  rcases first with ⟨tokens, values, read, derived, rfl⟩
  rcases second with ⟨tokens', values', read', derived', rfl⟩
  refine ⟨tokens ++ tokens', values ++ values', read.trans read', ?_, ?_⟩
  · rw [List.map_append]
    exact derived.append derived'
  · rw [List.flatten_append]

theorem ReadsText.of_skipped
    {lexer last : Lexer}
    (read : lexer.Reads [] last) :
    ReadsText lexer [] last :=
  ⟨[], [], read, .empty, rfl⟩

theorem ReadsText.of_text
    {lexer last : Lexer}
    {value : Text}
    {line : Nat}
    (read : lexer.Reads [⟨.text value, line⟩] last) :
    ReadsText lexer value last :=
  ⟨_, [value], read, .text value line .empty, List.append_nil value⟩

variable {rest : Text}

/-- An escaped text, perhaps empty, in front of markup. -/
theorem readsText_escape
    (value : Text)
    (line : Nat)
    (ends : EndsText rest) :
    ∃ line',
      ReadsText ⟨escape .lessThan value ++ rest, .content, line⟩ value
        ⟨rest, .content, line'⟩ := by
  by_cases isEmpty : value = []
  · subst isEmpty
    exact ⟨line, .of_skipped (.here _)⟩
  · exact ⟨_, .of_text (.text isEmpty ends)⟩

/-- A piece that is not escaped is markup, and is read on its own. -/
theorem readsText_piece
    {piece : Piece}
    (closed : piece.Closed)
    (notEscaped : ∀ value, piece ≠ .escaped value)
    (line : Nat) :
    EndsText (piece.spelling ++ rest) ∧
    ∃ line',
      ReadsText ⟨piece.spelling ++ rest, .content, line⟩ piece.value
        ⟨rest, .content, line'⟩ := by
  cases piece with
  | escaped value => exact absurd rfl (notEscaped value)
  | verbatim value =>
      refine ⟨.inr ⟨_, rfl, rfl⟩, line + value.lineFeeds, ?_⟩
      rw [Piece.spelling, List.append_assoc, List.append_assoc]
      exact .of_text (.verbatim closed rest line)
  | comment inside =>
      refine ⟨.inr ⟨_, rfl, rfl⟩, line + inside.lineFeeds, ?_⟩
      rw [Piece.spelling, List.append_assoc, List.append_assoc]
      exact .of_skipped (.comment closed rest line)

/-- The pieces of a text behind an escaped text.  Pieces that are escaped
lengthen the escaped text, and any other piece ends it. -/
theorem readsText_pieces
    {pieces : List Piece}
    (closed : ∀ piece ∈ pieces, piece.Closed)
    (ends : EndsText rest)
    (pending : Text)
    (line : Nat) :
    ∃ line',
      ReadsText
        ⟨escape .lessThan pending ++ (pieces.flatMap Piece.spelling ++ rest),
          .content, line⟩
        (pending ++ pieces.flatMap Piece.value)
        ⟨rest, .content, line'⟩ := by
  induction pieces generalizing pending line with
  | nil =>
      rw [List.flatMap_nil, List.flatMap_nil, List.nil_append, List.append_nil]
      exact readsText_escape pending line ends
  | cons piece pieces induction_hypothesis =>
      rw [List.forall_mem_cons] at closed
      rw [List.flatMap_cons, List.flatMap_cons, List.append_assoc]
      by_cases isEscaped : ∃ value, piece = .escaped value
      · -- No token ends between two escaped pieces.
        rcases isEscaped with ⟨value, rfl⟩
        rcases induction_hypothesis closed.2 (pending ++ value) line with
          ⟨line', read⟩
        refine ⟨line', ?_⟩
        rw [escape_append, List.append_assoc, List.append_assoc] at read
        exact read
      · rw [not_exists] at isEscaped
        rcases readsText_escape pending line
          (readsText_piece closed.1 isEscaped line).1 with ⟨line₁, readPending⟩
        rcases (readsText_piece closed.1 isEscaped line₁).2 with
          ⟨line₂, readPiece⟩
        rcases induction_hypothesis closed.2 [] line₂ with ⟨line', readOthers⟩
        exact ⟨line', readPending.trans (readPiece.trans readOthers)⟩

/-! ## Start tags -/

/-- Attributes end the name in front of them. -/
theorem SpellsAttributes.endsName
    {attributes : Dictionary Text}
    {written : Text}
    (spelled : SpellsAttributes attributes written)
    (ends : EndsName rest) :
    EndsName (written ++ rest) := by
  cases spelled with
  | none => exact ends
  | named name value before afterName beforeValue isQuote separated
      before_space =>
      rw [List.append_assoc]
      exact .of_space before_space separated _

/-- Written attributes are read as their tokens. -/
theorem SpellsAttributes.reads
    {attributes : Dictionary Text}
    {written : Text}
    (spelled : SpellsAttributes attributes written)
    (names : ∀ name ∈ attributes.names, IsName name)
    (rest : Text)
    (line : Nat) :
    ∃ tokens line',
      Lexer.Reads ⟨written ++ rest, .startTag, line⟩ tokens
        ⟨rest, .startTag, line'⟩ ∧
      DerivesAttributes tokens attributes := by
  induction spelled generalizing line with
  | none => exact ⟨[], line, .here _, .none⟩
  | named name value before afterName beforeValue isQuote separated
      before_space afterName_space beforeValue_space others
      induction_hypothesis =>
      have isName : IsName name := names name List.mem_cons_self
      have ends (text : Text) :
          EndsName (afterName ++ (CodePoint.scalar '=' :: text)) :=
        .space_append afterName_space (.of_mark (by decide) text)
      simp only [List.append_assoc, List.cons_append]
      rcases Lexer.Reads.space before_space line with ⟨line₁, read₁⟩
      rcases Lexer.Reads.space afterName_space line₁ with ⟨line₂, read₂⟩
      rcases Lexer.Reads.space beforeValue_space line₂ with ⟨line₃, read₃⟩
      rcases Lexer.Reads.string isQuote value with ⟨line₄, read₄⟩
      rcases induction_hypothesis
        (fun name within => names name (List.mem_cons_of_mem _ within)) line₄
        with ⟨tokens, line', readOthers, derived⟩
      refine ⟨_, line', read₁.trans ((Lexer.Reads.name isName (ends _)).trans
        (read₂.trans (Lexer.Reads.equals.trans (read₃.trans
          (read₄.trans readOthers))))), ?_⟩
      exact .named name value _ _ _ derived

/-- A start tag is read up to its end. -/
theorem reads_startTag
    {tag written space : Text}
    {attributes : Dictionary Text}
    (tag_name : IsName tag)
    (spelled : SpellsAttributes attributes written)
    (attribute_names : ∀ name ∈ attributes.names, IsName name)
    (isSpace : IsSpace space)
    (ends : EndsName rest)
    (line : Nat) :
    ∃ tokens line',
      Lexer.Reads
        ⟨CodePoint.scalar '<' :: (tag ++ (written ++ (space ++ rest))),
          .content, line⟩
        (⟨.openTag tag, line⟩ :: tokens)
        ⟨rest, .startTag, line'⟩ ∧
      DerivesAttributes tokens attributes := by
  have endsTag : EndsName (written ++ (space ++ rest)) :=
    spelled.endsName (.space_append isSpace ends)
  rcases spelled.reads attribute_names (space ++ rest) line with
    ⟨tokens, line₁, readAttributes, derived⟩
  rcases Lexer.Reads.space isSpace line₁ with ⟨line', readSpace⟩
  refine ⟨tokens, line', ?_, derived⟩
  have read := (Lexer.Reads.openTag tag_name endsTag).trans
    (readAttributes.trans readSpace)
  rw [List.append_nil] at read
  exact read

/-! ## Content -/

@[simp]
theorem siblingsWithoutLines_joinFirst
    (node : Node)
    (nodes : List Node) :
    siblingsWithoutLines (joinFirst node nodes) =
      joinFirst node.withoutLines (siblingsWithoutLines nodes) := by
  rcases node with _ | _
  · rcases nodes with _ | ⟨_ | _, nodes⟩ <;> rfl
  · rfl

theorem joinFirst_of_noText
    {nodes : List Node}
    (noText : ∀ node ∈ nodes.head?, node.text? = none)
    (value : Text) :
    joinFirst (.text value) (siblingsWithoutLines nodes) =
      .text value :: siblingsWithoutLines nodes := by
  rcases nodes with _ | ⟨_ | _, nodes⟩
  · rfl
  · cases noText _ rfl
  · rfl

theorem beginsMarkup_name_append
    {name : Text}
    (isName : IsName name)
    (text : Text) :
    beginsMarkup (name ++ text) = true := by
  cases name with
  | nil => exact isName.elim
  | cons first name => simp [beginsMarkup, isName.1]

theorem endsText_closeTag (text : Text) : EndsText (("</" : Text) ++ text) :=
  .inr ⟨_, rfl, rfl⟩

/-- A document of nodes that do not begin with a text ends a text in front of
it. -/
theorem Spells.endsText
    {nodes : List Node}
    {document : Text}
    (spelled : Spells nodes document)
    (writable : Writable nodes)
    (noText : ∀ node ∈ nodes.head?, node.text? = none)
    (ends : EndsText rest) :
    EndsText (document ++ rest) := by
  cases spelled with
  | empty => exact ends
  | comment => exact .inr ⟨_, rfl, rfl⟩
  | text => cases noText _ rfl
  | childless tag line =>
      cases writable with
      | element _ tag_name =>
          rw [List.cons_append, List.append_assoc]
          exact .inr ⟨_, rfl, beginsMarkup_name_append tag_name _⟩
  | paired tag line =>
      cases writable with
      | element _ tag_name =>
          rw [List.cons_append, List.append_assoc]
          exact .inr ⟨_, rfl, beginsMarkup_name_append tag_name _⟩

/-- Tokens are read from one place of a document to a later one, and their
derivation is made of certain nodes, lines aside. -/
def ReadsNodes (lexer : Lexer) (nodes : List Node) (last : Lexer) : Prop :=
  ∃ tokens forest,
    lexer.Reads tokens last ∧
    Derives tokens forest ∧
    siblingsWithoutLines (joinSiblings forest) = siblingsWithoutLines nodes

theorem ReadsNodes.text
    {lexer middle last : Lexer}
    {value : Text}
    {nodes : List Node}
    (nonempty : value ≠ [])
    (noText : ∀ node ∈ nodes.head?, node.text? = none)
    (read : ReadsText lexer value middle)
    (others : ReadsNodes middle nodes last) :
    ReadsNodes lexer (.text value :: nodes) last := by
  rcases read with ⟨tokens, values, read, derived, rfl⟩
  rcases others with ⟨tokens', forest, readOthers, derived', same⟩
  have someValue : values ≠ [] := by
    rintro rfl
    exact nonempty rfl
  refine ⟨tokens ++ tokens', values.map .text ++ forest,
    read.trans readOthers, derived.append derived', ?_⟩
  rw [joinSiblings_texts_append someValue, siblingsWithoutLines_joinFirst,
    same]
  exact joinFirst_of_noText noText values.flatten

theorem ReadsNodes.element
    {lexer middle last : Lexer}
    {tokens : List Token}
    {tag : Text}
    {attributes : Dictionary Text}
    {forest children nodes : List Node}
    {line : Nat}
    (read : lexer.Reads tokens middle)
    (derived : Derives tokens [.element tag attributes forest line])
    (same :
      siblingsWithoutLines (joinSiblings forest) =
        siblingsWithoutLines children)
    (others : ReadsNodes middle nodes last)
    (line' : Nat) :
    ReadsNodes lexer (.element tag attributes children line' :: nodes)
      last := by
  rcases others with ⟨tokens', forest', readOthers, derived', same'⟩
  refine ⟨tokens ++ tokens', _ :: forest', read.trans readOthers,
    derived.append derived', ?_⟩
  rw [joinSiblings, siblingsWithoutLines_joinFirst, same', Node.joined,
    Node.withoutLines, same]
  rfl

/-- Written nodes are read in front of any markup. -/
theorem Spells.reads
    {nodes : List Node}
    {document : Text}
    (spelled : Spells nodes document)
    (writable : Writable nodes)
    (ends : EndsText rest)
    (line : Nat) :
    ∃ line',
      ReadsNodes ⟨document ++ rest, .content, line⟩ nodes
        ⟨rest, .content, line'⟩ := by
  induction spelled generalizing rest line with
  | empty => exact ⟨line, [], [], .here _, .empty, rfl⟩
  | comment closed others induction_hypothesis =>
      rw [Piece.spelling, List.append_assoc, List.append_assoc,
        List.append_assoc]
      rcases induction_hypothesis writable ends _ with
        ⟨line', tokens, forest, readOthers, derived, same⟩
      exact ⟨line', tokens, forest,
        (Lexer.Reads.comment closed _ line).trans readOthers, derived, same⟩
  | text said closed others induction_hypothesis =>
      cases writable with
      | text nonempty noText others_writable =>
          rw [List.append_assoc]
          rcases readsText_pieces closed
            (others.endsText others_writable noText ends) [] line with
            ⟨line₁, readPieces⟩
          rw [List.nil_append, said] at readPieces
          rcases induction_hypothesis others_writable ends line₁ with
            ⟨line', readOthers⟩
          exact ⟨line', .text nonempty noText readPieces readOthers⟩
  | childless tag nodeLine spelled isSpace others induction_hypothesis =>
      cases writable with
      | element _ tag_name attribute_names distinct content others_writable =>
          simp only [List.append_assoc, List.cons_append]
          rcases reads_startTag tag_name spelled attribute_names isSpace
            (@EndsName.of_mark '/' (by decide) _) line with
            ⟨attributeTokens, line₁, readStart, attributes_derived⟩
          rcases induction_hypothesis others_writable ends line₁ with
            ⟨line', readOthers⟩
          have derived :=
            Derives.selfClosed tag line line₁ attributes_derived distinct .empty
          refine ⟨line', .element ?_ derived rfl readOthers nodeLine⟩
          exact readStart.trans Lexer.Reads.selfClose
  | paired tag nodeLine spelled isSpace content closeSpace_space others
      content_hypothesis others_hypothesis =>
      cases writable with
      | element _ tag_name attribute_names distinct content_writable
          others_writable =>
          simp only [List.append_assoc, List.cons_append]
          rcases reads_startTag tag_name spelled attribute_names isSpace
            (@EndsName.of_mark '>' (by decide) _) line with
            ⟨attributeTokens, line₁, readStart, attributes_derived⟩
          rcases content_hypothesis content_writable (endsText_closeTag _) line₁
            with ⟨line₂, inside, children, readInside, inside_derived, same⟩
          rcases others_hypothesis others_writable ends line₂ with
            ⟨line', readOthers⟩
          have derived :=
            Derives.paired tag line line₁ line₂ attributes_derived distinct
              inside_derived .empty
          refine ⟨line', .element ?_ derived same readOthers nodeLine⟩
          exact readStart.trans (Lexer.Reads.tagEnd.trans (readInside.trans
            (Lexer.Reads.closeTag tag_name closeSpace_space)))

/-! ## Whole documents -/

namespace Parser

/-- Nodes with names for names, distinct attributes, and no text that is empty
or next to another can be written, and every document that writes them is
read as these nodes, with the lines of the document. -/
theorem parse_spelling
    (nodes : List Node)
    (writable : Writable nodes) :
    (∃ document, Spells nodes document) ∧
    ∀ document,
      Spells nodes document →
      ∀ parser : Parser,
        ∃ read,
          (parser.parse document).1 = .ok read ∧
          siblingsWithoutLines read = siblingsWithoutLines nodes := by
  refine ⟨exists_spells nodes, ?_⟩
  intro document spelled parser
  rcases spelled.reads writable (.inl rfl) 1 with
    ⟨line, tokens, forest, read, derived, same⟩
  rw [List.append_nil] at read
  refine ⟨joinSiblings forest, ?_, same⟩
  exact parse_eq_ok_iff.2
    ⟨tokens, read.tokenize_eq, Reader.nodes?_eq_some_iff.2
      ⟨forest, derived, rfl⟩⟩

/-- A text and an attribute that need escaping, in mixed content. -/
def remark : List Node :=
  [.text "a<b&]]>",
    .element "t" [("k", "\"'")] [.text "x", .element "u" [] [] 0] 0]

/-- A document that writes them, in pieces of every kind. -/
def remarkDocument : Text :=
  "a&lt;b<!-- -->&amp;]]><t k = '\"&apos;'\n><![CDATA[x]]><u/></t>"

theorem parse_spelling_remark :
    Writable remark ∧
    Spells remark remarkDocument ∧
    ∃ read,
      (({} : Parser).parse remarkDocument).1 = .ok read ∧
      siblingsWithoutLines read = siblingsWithoutLines remark := by
  have isName (letter : CodePoint) (starts : isNameStart letter = true) :
      IsName [letter] :=
    ⟨starts, nofun⟩
  have oneSpace (space : CodePoint) (within : space = ' ' ∨ space = '\n') :
      IsSpace [space] := by
    rintro point (_ | ⟨_, ⟨⟩⟩)
    rcases within with rfl | rfl
    · exact .inl rfl
    · exact .inr (.inr (.inr rfl))
  have writable : Writable remark := by
    refine .text (by decide) ?_ (.element 0 (isName 't' rfl) ?_
      (List.nodup_singleton _) (.text (by decide) ?_
        (.element 0 (isName 'u' rfl) nofun List.nodup_nil .empty .empty))
        .empty)
    · rintro node ⟨rfl⟩
      rfl
    · rintro name (_ | ⟨_, ⟨⟩⟩)
      exact isName 'k' rfl
    · rintro node ⟨rfl⟩
      rfl
  have attributes : SpellsAttributes [("k", "\"'")] _ :=
    .named "k" "\"'" " " " " " " (.inr rfl) (by decide)
      (oneSpace ' ' (.inl rfl)) (oneSpace ' ' (.inl rfl))
      (oneSpace ' ' (.inl rfl)) .none
  have spelled : Spells remark remarkDocument :=
    @Spells.text _ _ [.escaped "a<b", .comment " ", .escaped "&]]>"] _ rfl
      (by simp [Piece.Closed]; rfl)
      (.paired "t" 0 attributes (oneSpace '\n' (.inr rfl))
        (@Spells.text _ _ [.verbatim "x"] _ rfl (by simp [Piece.Closed]; rfl)
          (.childless "u" 0 .none isSpace_nil .empty))
        isSpace_nil .empty)
  exact ⟨writable, spelled,
    (parse_spelling remark writable).2 remarkDocument spelled {}⟩

end Parser

end AnnotatedSql.Markup
