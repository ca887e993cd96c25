import AnnotatedSql.Markup.Parser
import AnnotatedSql.Proofs.Dictionary
import AnnotatedSql.Proofs.Markup.Grammar
import AnnotatedSql.Proofs.Markup.Lexing
import AnnotatedSql.Proofs.Outcome

/-!
# Documents and their derivations

The reader of tokens checks a close tag against its start tag, and an
attribute against those before it, only when the next token is seen.  Which
fault is reported depends on this, but not whether there is one: what a
reader makes of the rest of a document, `Reader.nodes?`, is the same as if
each check were made at once.

Read this way the reader follows the grammar.  Content with a derivation is
read to its end, with its nodes behind those that are there, and whatever is
read to the end of the document is such content.
-/

namespace AnnotatedSql

namespace Markup

/-! ## Reading to the end -/

/-- A start tag with further attributes. -/
def StartTag.withAttributes
    (start : StartTag)
    (attributes : Dictionary Text) :
    StartTag :=
  { start with attributes := start.attributes ++ attributes }

@[simp]
theorem StartTag.tag_withAttributes
    (start : StartTag)
    (attributes : Dictionary Text) :
    (start.withAttributes attributes).tag = start.tag :=
  rfl

@[simp]
theorem StartTag.names_withAttributes
    (start : StartTag)
    (attributes : Dictionary Text) :
    (start.withAttributes attributes).attributes.names =
      start.attributes.names ++ attributes.names :=
  List.map_append

theorem StartTag.distinct_new
    {tag : Text}
    {line : Nat}
    {attributes : Dictionary Text}
    (distinct : attributes.names.Nodup) :
    ((⟨tag, [], line⟩ : StartTag).withAttributes
      attributes).attributes.names.Nodup :=
  distinct

@[simp]
theorem StartTag.withAttributes_nil (start : StartTag) :
    start.withAttributes [] = start := by
  simp [withAttributes]

theorem StartTag.withAttributes_cons
    (start : StartTag)
    (name value : Text)
    (attributes : Dictionary Text) :
    start.withAttributes ((name, value) :: attributes) =
      (start.withAttributes [(name, value)]).withAttributes attributes := by
  simp [withAttributes]

namespace Reader

/-- The nodes a reader makes of the tokens up to the end of a document. -/
def nodes? (reader : Reader) (tokens : List Token) : Option (List Node) :=
  (tokens.foldlM read reader >>= finish).toOption

@[simp]
theorem nodes?_nil (reader : Reader) :
    reader.nodes? [] = reader.finish.toOption :=
  rfl

@[simp]
theorem nodes?_cons
    (reader : Reader)
    (token : Token)
    (tokens : List Token) :
    reader.nodes? (token :: tokens) =
      (reader.read token).toOption.bind (nodes? · tokens) := by
  unfold nodes?
  rw [List.foldlM_cons]
  cases reader.read token <;> rfl

variable
  {ancestors : List OpenElement}
  {nodes : List Node}
  {tokens : List Token}
  {start : StartTag}

theorem nodes?_text (value : Text) (line : Nat) :
    nodes? ⟨ancestors, nodes, .content⟩ (⟨.text value, line⟩ :: tokens) =
      nodes? ⟨ancestors, appendText value nodes, .content⟩ tokens := by
  rw [nodes?_cons]
  rfl

theorem nodes?_append_congr
    {tokens' : List Token}
    (same : ∀ reader, nodes? reader tokens = nodes? reader tokens')
    (earlier : List Token)
    (reader : Reader) :
    nodes? reader (earlier ++ tokens) = nodes? reader (earlier ++ tokens') := by
  induction earlier generalizing reader with
  | nil => exact same reader
  | cons token earlier induction_hypothesis =>
      rw [List.cons_append, List.cons_append, nodes?_cons, nodes?_cons,
        funext induction_hypothesis]

theorem nodes?_openTag (tag : Text) (line : Nat) :
    nodes? ⟨ancestors, nodes, .content⟩ (⟨.openTag tag, line⟩ :: tokens) =
      nodes? ⟨ancestors, nodes, .startTag ⟨tag, [], line⟩⟩ tokens := by
  rw [nodes?_cons]
  rfl

theorem nodes?_selfClose (line : Nat) :
    nodes? ⟨ancestors, nodes, .startTag start⟩ (⟨.selfClose, line⟩ :: tokens) =
      nodes? ⟨ancestors,
        .element start.tag start.attributes [] start.line :: nodes, .content⟩
        tokens := by
  rw [nodes?_cons]
  rfl

theorem nodes?_tagEnd (line : Nat) :
    nodes? ⟨ancestors, nodes, .startTag start⟩ (⟨.tagEnd, line⟩ :: tokens) =
      nodes? ⟨⟨start, nodes⟩ :: ancestors, [], .content⟩ tokens := by
  rw [nodes?_cons]
  rfl

@[simp]
theorem appendText_append
    (value value' : Text)
    (nodes : List Node) :
    appendText value' (appendText value nodes) =
      appendText (value ++ value') nodes := by
  rcases nodes with _ | ⟨_ | _, nodes⟩ <;> simp [appendText]

/-- Two tokens of text are read like one, wherever they stand. -/
theorem nodes?_texts
    (reader : Reader)
    (value value' : Text)
    (line line' joinedLine : Nat) :
    nodes? reader (⟨.text value, line⟩ :: ⟨.text value', line'⟩ :: tokens) =
      nodes? reader (⟨.text (value ++ value'), joinedLine⟩ :: tokens) := by
  have inContent (ancestors : List OpenElement) (nodes : List Node) :
      nodes? ⟨ancestors, nodes, .content⟩
          (⟨.text value, line⟩ :: ⟨.text value', line'⟩ :: tokens) =
        nodes? ⟨ancestors, nodes, .content⟩
          (⟨.text (value ++ value'), joinedLine⟩ :: tokens) := by
    rw [nodes?_text, nodes?_text, nodes?_text, appendText_append]
  rcases reader with ⟨ancestors, nodes, place⟩
  cases place with
  | content => exact inContent ancestors nodes
  | afterCloseTag name closeLine =>
      -- Text may follow an element, whose close tag is checked first; a
      -- checked close tag leaves a reader of content.
      rcases ancestors with _ | ⟨⟨start, before⟩, outer⟩
      · exact inContent [] nodes
      · have closed := inContent outer
          (.element start.tag start.attributes nodes.reverse start.line ::
            before)
        rw [nodes?_cons, nodes?_cons] at closed ⊢
        by_cases same : start.tag = name
        · simp only [read, followsElement, close, if_pos same]
          exact closed
        · simp only [read, followsElement, close, if_neg same]
          rfl
  | _ => rfl

/-- The content refuses every token that cannot follow an element. -/
theorem readContent_of_not_followsElement
    {token : Token}
    (reader : Reader)
    (refused : followsElement token.symbol = false) :
    reader.readContent token = .error (unexpected token) := by
  unfold readContent
  cases symbol_eq : token.symbol <;> simp_all [followsElement]

/-- A start tag refuses every token that cannot follow an attribute. -/
theorem readStartTag_of_not_followsAttribute
    {token : Token}
    (reader : Reader)
    (refused : followsAttribute token.symbol = false) :
    reader.readStartTag start token = .error (unexpected token) := by
  unfold readStartTag
  cases symbol_eq : token.symbol <;> simp_all [followsAttribute]

/-- The delayed check of a close tag is as good as a check at once. -/
theorem nodes?_closeTag
    {before : List Node}
    {outer : List OpenElement}
    (name : Text)
    (line : Nat) :
    nodes? ⟨⟨start, before⟩ :: outer, nodes, .content⟩
        (⟨.closeTag name, line⟩ :: tokens) =
      if start.tag = name then
        nodes? ⟨outer, .element start.tag start.attributes nodes.reverse
          start.line :: before, .content⟩ tokens
      else
        none := by
  rw [nodes?_cons]
  show nodes? ⟨_, _, .afterCloseTag name line⟩ tokens = _
  by_cases same : start.tag = name
  · rw [if_pos same]
    cases tokens with
    | nil =>
        simp only [nodes?_nil, finish, close, if_pos same]
        rfl
    | cons token tokens =>
        rw [nodes?_cons, nodes?_cons]
        simp only [read, close, if_pos same]
        cases follows : followsElement token.symbol with
        | true => rfl
        | false => rw [readContent_of_not_followsElement _ follows]; rfl
  · rw [if_neg same]
    cases tokens with
    | nil =>
        simp only [nodes?_nil, finish, close, if_neg same]
        rfl
    | cons token tokens =>
        rw [nodes?_cons]
        simp only [read, close, if_neg same]
        split <;> rfl

theorem nodes?_attribute
    (name value : Text)
    (nameLine equalsLine valueLine : Nat) :
    nodes? ⟨ancestors, nodes, .startTag start⟩
        (⟨.name name, nameLine⟩ :: ⟨.equals, equalsLine⟩ ::
          ⟨.string value, valueLine⟩ :: tokens) =
      if start.attributes.contains name then
        none
      else
        nodes? ⟨ancestors, nodes, .startTag { start with
          attributes := start.attributes ++ [(name, value)] }⟩ tokens := by
  rw [nodes?_cons]
  show nodes? ⟨_, _, .afterName start name nameLine⟩ _ = _
  rw [nodes?_cons]
  show nodes? ⟨_, _, .afterEquals start name nameLine⟩ _ = _
  rw [nodes?_cons]
  show nodes? ⟨_, _, .afterValue start name nameLine value⟩ tokens = _
  by_cases taken : start.attributes.contains name = true
  · rw [if_pos taken]
    cases tokens with
    | nil => rfl
    | cons token tokens =>
        rw [nodes?_cons]
        simp only [read, addAttribute, if_pos taken]
        split <;> rfl
  · rw [if_neg taken]
    cases tokens with
    | nil => rfl
    | cons token tokens =>
        rw [nodes?_cons, nodes?_cons]
        simp only [read, addAttribute, if_neg taken]
        cases follows : followsAttribute token.symbol with
        | true => rfl
        | false => rw [readStartTag_of_not_followsAttribute _ follows]; rfl

/-- What can stand in a start tag that is read to the end of the document. -/
theorem startTag_cases
    {document : List Node}
    (found :
      nodes? ⟨ancestors, nodes, .startTag start⟩ tokens = some document) :
    (∃ line rest, tokens = ⟨.selfClose, line⟩ :: rest ∨
      tokens = ⟨.tagEnd, line⟩ :: rest) ∨
    ∃ name nameLine equalsLine value valueLine rest,
      tokens = ⟨.name name, nameLine⟩ :: ⟨.equals, equalsLine⟩ ::
        ⟨.string value, valueLine⟩ :: rest := by
  rcases tokens with _ | ⟨⟨symbol, line⟩, tokens⟩
  · cases found
  cases symbol with
  | selfClose => exact .inl ⟨line, tokens, .inl rfl⟩
  | tagEnd => exact .inl ⟨line, tokens, .inr rfl⟩
  | name name =>
      rcases tokens with _ | ⟨⟨second, equalsLine⟩, tokens⟩
      · cases found
      rcases tokens with _ | ⟨⟨third, valueLine⟩, tokens⟩
      · cases second <;> cases found
      cases second with
      | equals =>
          cases third with
          | string value =>
              exact .inr ⟨name, line, equalsLine, value, valueLine, tokens, rfl⟩
          | _ => cases found
      | _ => cases found
  | _ => cases found

/-! ## Attributes -/

/-- Attributes whose names are new are read into the start tag. -/
theorem nodes?_attributes
    {attributeTokens : List Token}
    {attributes : Dictionary Text}
    (derived : DerivesAttributes attributeTokens attributes)
    (distinct : (start.withAttributes attributes).attributes.names.Nodup) :
    nodes? ⟨ancestors, nodes, .startTag start⟩ (attributeTokens ++ tokens) =
      nodes? ⟨ancestors, nodes, .startTag (start.withAttributes attributes)⟩
        tokens := by
  induction derived generalizing start with
  | none => rw [List.nil_append, start.withAttributes_nil]
  | named name value nameLine equalsLine valueLine others
      induction_hypothesis =>
      have free : ¬ start.attributes.contains name = true := by
        rw [StartTag.names_withAttributes] at distinct
        rw [Dictionary.contains_iff_mem_names]
        intro taken
        exact (List.nodup_append.1 distinct).2.2 name taken name
          List.mem_cons_self rfl
      rw [start.withAttributes_cons] at distinct ⊢
      rw [List.cons_append, List.cons_append, List.cons_append,
        nodes?_attribute, if_neg free]
      exact induction_hypothesis distinct

/-- A start tag that is read to the end of the document holds attributes with
new names up to its end. -/
theorem exists_attributes_of_nodes?
    {document : List Node}
    (found : nodes? ⟨ancestors, nodes, .startTag start⟩ tokens = some document)
    (distinct : start.attributes.names.Nodup) :
    ∃ attributeTokens attributes rest,
      DerivesAttributes attributeTokens attributes ∧
      (start.withAttributes attributes).attributes.names.Nodup ∧
      tokens = attributeTokens ++ rest ∧
      (∃ line rest', rest = ⟨.selfClose, line⟩ :: rest' ∨
        rest = ⟨.tagEnd, line⟩ :: rest') ∧
      nodes? ⟨ancestors, nodes, .startTag (start.withAttributes attributes)⟩
        rest = some document := by
  induction length_eq : tokens.length using Nat.strong_induction_on
    generalizing tokens start with
  | h length induction_hypothesis =>
      rcases startTag_cases found with ⟨line, rest, atEnd⟩ |
        ⟨name, nameLine, equalsLine, value, valueLine, rest, rfl⟩
      · refine ⟨[], [], tokens, .none, ?_, rfl, ⟨line, rest, atEnd⟩, ?_⟩
        · rwa [start.withAttributes_nil]
        · rwa [start.withAttributes_nil]
      · rw [nodes?_attribute] at found
        split at found
        · cases found
        · next free =>
          have distinct' :
              (start.withAttributes
                [(name, value)]).attributes.names.Nodup := by
            rw [Dictionary.contains_iff_mem_names] at free
            rw [StartTag.names_withAttributes, List.nodup_append]
            refine ⟨distinct, List.nodup_singleton name, ?_⟩
            rintro taken isTaken _ (_ | ⟨_, ⟨⟩⟩) rfl
            exact free isTaken
          rcases induction_hypothesis rest.length
            (by simp only [List.length_cons] at length_eq; omega) found
            distinct' rfl with
            ⟨attributeTokens, attributes, rest', derived, distinct'', rfl,
              atEnd, found'⟩
          refine ⟨_, (name, value) :: attributes, rest',
            .named name value nameLine equalsLine valueLine derived, ?_, rfl,
            atEnd, ?_⟩
          · rwa [start.withAttributes_cons]
          · rwa [start.withAttributes_cons]

/-! ## Content -/

/-- Puts a node of a derivation behind nodes that are given latest first. -/
def pushNode (nodes : List Node) : Node → List Node
  | .text value => appendText value nodes
  | node => node.joined :: nodes

/-- Puts the nodes of a derivation behind nodes that are given latest first. -/
def pushAll (nodes forest : List Node) : List Node :=
  forest.foldl pushNode nodes

/-- Joined nodes behind nodes that are given latest first. -/
def joinBehind : (nodes joined : List Node) → List Node
  | .text before :: nodes, .text value :: joined =>
      nodes.reverse ++ .text (before ++ value) :: joined
  | nodes, joined => nodes.reverse ++ joined

theorem joinBehind_appendText
    (value : Text)
    (nodes joined : List Node) :
    joinBehind (appendText value nodes) joined =
      joinBehind nodes (joinFirst (.text value) joined) := by
  rcases nodes with _ | ⟨_ | _, nodes⟩ <;>
    rcases joined with _ | ⟨_ | _, joined⟩ <;>
    simp [appendText, joinBehind, joinFirst]

theorem reverse_pushAll_eq_joinBehind
    (nodes forest : List Node) :
    (pushAll nodes forest).reverse =
      joinBehind nodes (joinSiblings forest) := by
  induction forest generalizing nodes with
  | nil => cases nodes <;> simp [pushAll, joinSiblings, joinBehind]
  | cons node forest induction_hypothesis =>
      show (pushAll (pushNode nodes node) forest).reverse = _
      rw [induction_hypothesis, joinSiblings]
      cases node with
      | text value => exact joinBehind_appendText value nodes _
      | element tag attributes children line =>
          simp [pushNode, Node.joined, joinFirst, joinBehind]

/-- What is read behind nothing is the derivation with its texts joined. -/
@[simp]
theorem reverse_pushAll (forest : List Node) :
    (pushAll [] forest).reverse = joinSiblings forest := by
  rw [reverse_pushAll_eq_joinBehind]
  rfl

/-- Content is read to its end, with its nodes behind those that are there. -/
theorem nodes?_append_of_derives
    {inside : List Token}
    {forest : List Node}
    (derived : Derives inside forest) :
    nodes? ⟨ancestors, nodes, .content⟩ (inside ++ tokens) =
      nodes? ⟨ancestors, pushAll nodes forest, .content⟩ tokens := by
  induction derived generalizing ancestors nodes tokens with
  | empty => rfl
  | text value line others induction_hypothesis =>
      rw [List.cons_append, nodes?_text, induction_hypothesis]
      rfl
  | selfClosed tag line endLine derived distinct others induction_hypothesis =>
      rw [List.cons_append, List.append_assoc, nodes?_openTag,
        nodes?_attributes derived (StartTag.distinct_new distinct),
        List.cons_append, nodes?_selfClose, induction_hypothesis]
      rfl
  | paired tag line endLine closeLine derived distinct content others
      content_hypothesis others_hypothesis =>
      rw [List.cons_append, List.append_assoc, nodes?_openTag,
        nodes?_attributes derived (StartTag.distinct_new distinct),
        List.cons_append, nodes?_tagEnd, List.append_assoc, content_hypothesis,
        List.cons_append, nodes?_closeTag, StartTag.tag_withAttributes,
        if_pos rfl, reverse_pushAll, others_hypothesis]
      rfl

/-- What is read to the end of the document begins with content, up to a
close tag or the end. -/
theorem exists_derives_of_nodes?
    {document : List Node}
    (found : nodes? ⟨ancestors, nodes, .content⟩ tokens = some document) :
    ∃ inside forest rest,
      Derives inside forest ∧
      tokens = inside ++ rest ∧
      EndsContent rest ∧
      nodes? ⟨ancestors, pushAll nodes forest, .content⟩ rest =
        some document := by
  induction length_eq : tokens.length using Nat.strong_induction_on
    generalizing tokens ancestors nodes with
  | h length induction_hypothesis =>
      rcases tokens with _ | ⟨⟨symbol, line⟩, tokens⟩
      · exact ⟨[], [], [], .empty, rfl, by simp [EndsContent], found⟩
      rw [List.length_cons] at length_eq
      cases symbol with
      | text value =>
          rw [nodes?_text] at found
          rcases induction_hypothesis tokens.length (by omega) found rfl with
            ⟨inside, forest, rest, derived, rfl, ends, found'⟩
          exact ⟨_, _, rest, .text value line derived, rfl, ends, found'⟩
      | closeTag name =>
          exact ⟨[], [], _, .empty, rfl, .closeTag name line tokens, found⟩
      | openTag tag =>
          rw [nodes?_openTag] at found
          rcases exists_attributes_of_nodes? found List.nodup_nil with
            ⟨attributeTokens, attributes, rest, attributes_derived, distinct,
              rfl, ⟨endLine, rest, rfl | rfl⟩, foundEnd⟩
          all_goals
            rw [List.length_append, List.length_cons] at length_eq
          · rw [nodes?_selfClose] at foundEnd
            rcases induction_hypothesis rest.length (by omega) foundEnd rfl with
              ⟨inside, forest, rest, derived, rfl, ends, foundRest⟩
            refine ⟨_, _, rest, .selfClosed tag line endLine
              attributes_derived distinct derived, ?_, ends, foundRest⟩
            simp
          · -- The content of the element is read on top of the stack; what
            -- follows its close tag is read with the stack as it was.
            rw [nodes?_tagEnd] at foundEnd
            rcases induction_hypothesis rest.length (by omega) foundEnd rfl with
              ⟨inside, children, rest, content, rfl, ends, foundInside⟩
            rcases rest with _ | ⟨⟨symbol, closeLine⟩, rest⟩
            · cases foundInside
            rcases ends _ rfl with ⟨name, rfl⟩
            rw [nodes?_closeTag] at foundInside
            split at foundInside
            · next same =>
              change tag = name at same
              subst same
              rw [List.length_append, List.length_cons] at length_eq
              rcases induction_hypothesis rest.length (by omega) foundInside
                rfl with
                ⟨inside', forest, rest, derived, rfl, ends', foundRest⟩
              rw [reverse_pushAll] at foundRest
              refine ⟨_, _, rest, .paired tag line endLine closeLine
                attributes_derived distinct content derived, ?_, ends',
                foundRest⟩
              simp
            · cases foundInside
      | _ => cases found

/-- The tokens of a document are read exactly if they have a derivation. -/
theorem nodes?_eq_some_iff
    {document : List Node} :
    nodes? {} tokens = some document ↔
      ∃ forest, Derives tokens forest ∧ document = joinSiblings forest := by
  constructor
  · intro found
    rcases exists_derives_of_nodes? found with
      ⟨inside, forest, rest, derived, rfl, ends, found'⟩
    rcases rest with _ | ⟨⟨symbol, line⟩, rest⟩
    · rw [List.append_nil]
      refine ⟨forest, derived, ?_⟩
      rw [← reverse_pushAll]
      exact (Option.some.inj found').symm
    · rcases ends _ rfl with ⟨name, rfl⟩
      cases found'
  · rintro ⟨forest, derived, rfl⟩
    have read_eq :
        nodes? {} (tokens ++ []) =
          nodes? ⟨[], pushAll [] forest, .content⟩ [] :=
      nodes?_append_of_derives derived
    rw [List.append_nil] at read_eq
    rw [read_eq, ← reverse_pushAll]
    rfl

end Reader

/-! ## Whole documents -/

/-- The nodes of a list of tokens that ends with the document or with a fault
of the document. -/
def nodesOfTokens
    (tokens : List Token)
    (fault : Option Error)
    (reader : Reader) : Except Error (List Node) := do
  let reader ← tokens.foldlM Reader.read reader
  match fault with
  | none => reader.finish
  | some error => .error error

/-- Reading stops at the first fault.  What comes behind it has no say in the
outcome, which is that of reading all tokens. -/
theorem Reader.fst_readFrom
    (reader : Reader)
    (lexer : Lexer) :
    (reader.readFrom lexer).1 =
      nodesOfTokens lexer.run.1 lexer.run.2.1 reader := by
  induction reader, lexer using Reader.readFrom.induct with
  | case1 reader lexer following step induction_hypothesis =>
      rw [(Lexer.Reads.of_skipped step).run_eq, List.nil_append,
        ← induction_hypothesis, Reader.readFrom]
      split <;> simp_all
  | case2 reader lexer step =>
      rw [Lexer.run_of_finished step, Reader.readFrom]
      split <;> simp_all [nodesOfTokens]
  | case3 reader lexer error following step =>
      rw [Lexer.run_of_failed step, Reader.readFrom]
      split <;> simp_all [nodesOfTokens]
  | case4 reader lexer token following step next read_eq induction_hypothesis =>
      have tokens_eq (tokens : List Token) (fault : Option Error) :
          nodesOfTokens ([token] ++ tokens) fault reader =
            nodesOfTokens tokens fault next := by
        rw [nodesOfTokens, List.singleton_append, List.foldlM_cons, read_eq]
        rfl
      rw [(Lexer.Reads.of_token step).run_eq, tokens_eq,
        ← induction_hypothesis, Reader.readFrom]
      split <;> simp_all
  | case5 reader lexer token following step error read_eq =>
      have tokens_eq (tokens : List Token) (fault : Option Error) :
          nodesOfTokens ([token] ++ tokens) fault reader = .error error := by
        rw [nodesOfTokens, List.singleton_append, List.foldlM_cons, read_eq]
        rfl
      rw [(Lexer.Reads.of_token step).run_eq, tokens_eq, Reader.readFrom]
      split <;> simp_all

namespace Parser

variable
  {parser : Parser}
  {document : Text}

/-- A document is read exactly if its tokens are, and it has no fault. -/
theorem parse_eq_ok_iff
    {nodes : List Node} :
    (parser.parse document).1 = .ok nodes ↔
      ∃ tokens,
        (parser.lexer.tokenize document).1 = .ok tokens ∧
        Reader.nodes? {} tokens = some nodes := by
  have outcome_eq :
      (parser.parse document).1 =
        nodesOfTokens (parser.lexer.load document).run.1
          (parser.lexer.load document).run.2.1 {} :=
    Reader.fst_readFrom {} (parser.lexer.load document)
  rw [outcome_eq]
  unfold Lexer.tokenize Reader.nodes? nodesOfTokens
  rcases (parser.lexer.load document).run with ⟨tokens, _ | fault, last⟩
  · cases folded : tokens.foldlM Reader.read {} with
    | error error =>
        simp [folded, bind, Except.bind, Except.toOption]
    | ok reader =>
        cases finished : reader.finish <;>
          simp [folded, bind, Except.bind, Except.toOption, finished]
  · cases tokens.foldlM Reader.read {} <;> simp [bind, Except.bind]

/-- A document is read exactly if its tokens have a derivation.  There is
only one then, and its nodes with neighbouring texts joined are what is read:
nothing more and nothing less than the document says, in its order.  Every
other document has a fault. -/
theorem parse_derivation
    (parser : Parser)
    (document : Text) :
    (∀ nodes,
      (parser.parse document).1 = .ok nodes ↔
        ∃ tokens forest,
          (parser.lexer.tokenize document).1 = .ok tokens ∧
          Derives tokens forest ∧
          nodes = joinSiblings forest) ∧
    (∀ tokens forest forest',
      Derives tokens forest → Derives tokens forest' → forest' = forest) ∧
    (∀ tokens nodes,
      (parser.lexer.tokenize document).1 = .ok tokens →
      (parser.parse document).1 = .ok nodes →
        Separated nodes ∧
        siblingItems nodes = tokens.flatMap Token.items) ∧
    ((¬ ∃ tokens forest,
        (parser.lexer.tokenize document).1 = .ok tokens ∧
        Derives tokens forest) →
      ∃ error, (parser.parse document).1 = .error error) := by
  have readExactly (nodes : List Node) :
      (parser.parse document).1 = .ok nodes ↔
        ∃ tokens forest,
          (parser.lexer.tokenize document).1 = .ok tokens ∧
          Derives tokens forest ∧
          nodes = joinSiblings forest := by
    rw [parse_eq_ok_iff]
    constructor
    · rintro ⟨tokens, tokenized, found⟩
      rcases Reader.nodes?_eq_some_iff.1 found with ⟨forest, derived, joined⟩
      exact ⟨tokens, forest, tokenized, derived, joined⟩
    · rintro ⟨tokens, forest, tokenized, derived, joined⟩
      exact ⟨tokens, tokenized,
        Reader.nodes?_eq_some_iff.2 ⟨forest, derived, joined⟩⟩
  refine ⟨readExactly, ?_, ?_, ?_⟩
  · intro tokens forest forest' first second
    exact second.unique first
  · intro tokens nodes tokenized parsed
    rcases (readExactly nodes).1 parsed with
      ⟨tokens', forest, tokenized', derived, rfl⟩
    rw [tokenized, Except.ok.injEq] at tokenized'
    subst tokenized'
    exact ⟨separated_joinSiblings forest,
      (siblingItems_joinSiblings forest).trans derived.items_eq⟩
  · intro underived
    cases parsed : (parser.parse document).1 with
    | error error => exact ⟨error, rfl⟩
    | ok nodes =>
        rcases (readExactly nodes).1 parsed with
          ⟨tokens, forest, tokenized, derived, _⟩
        exact absurd ⟨tokens, forest, tokenized, derived⟩ underived

end Parser

end Markup

end AnnotatedSql
