import AnnotatedSql.Markup.Node
import AnnotatedSql.Markup.Token
import Mathlib

/-!
# The grammar of documents

The tokens of a document are content: runs of text and elements.  An element
is a start tag with attributes that ends itself, or a start tag, content, and
a close tag of the same name; no attribute name is repeated in a start tag.
`Derives` relates tokens to the nodes of their derivation, with one text node
for each text token, and a list of tokens has at most one derivation.

A document's nodes are those of its derivation with neighbouring texts
joined, at every depth.  No two texts are neighbours then, and the nodes say
what the tokens say, in the same order.
-/

namespace AnnotatedSql.Markup

/-! ## Derivations -/

/-- The tokens of attributes, and the names with their values in order. -/
inductive DerivesAttributes : List Token → Dictionary Text → Prop where
  | none : DerivesAttributes [] []
  | named
      (name value : Text)
      (nameLine equalsLine valueLine : Nat)
      {tokens : List Token}
      {attributes : Dictionary Text}
      (others : DerivesAttributes tokens attributes) :
      DerivesAttributes
        (⟨.name name, nameLine⟩ :: ⟨.equals, equalsLine⟩ ::
          ⟨.string value, valueLine⟩ :: tokens)
        ((name, value) :: attributes)

/-- The tokens of content, and its nodes with every text token on its own. -/
inductive Derives : List Token → List Node → Prop where
  | empty : Derives [] []
  | text
      (value : Text)
      (line : Nat)
      {tokens : List Token}
      {nodes : List Node}
      (others : Derives tokens nodes) :
      Derives (⟨.text value, line⟩ :: tokens) (.text value :: nodes)
  | selfClosed
      (tag : Text)
      (line endLine : Nat)
      {attributeTokens tokens : List Token}
      {attributes : Dictionary Text}
      {nodes : List Node}
      (derived : DerivesAttributes attributeTokens attributes)
      (distinct : attributes.names.Nodup)
      (others : Derives tokens nodes) :
      Derives
        (⟨.openTag tag, line⟩ ::
          (attributeTokens ++ ⟨.selfClose, endLine⟩ :: tokens))
        (.element tag attributes [] line :: nodes)
  | paired
      (tag : Text)
      (line endLine closeLine : Nat)
      {attributeTokens inside tokens : List Token}
      {attributes : Dictionary Text}
      {children nodes : List Node}
      (derived : DerivesAttributes attributeTokens attributes)
      (distinct : attributes.names.Nodup)
      (content : Derives inside children)
      (others : Derives tokens nodes) :
      Derives
        (⟨.openTag tag, line⟩ ::
          (attributeTokens ++ ⟨.tagEnd, endLine⟩ ::
            (inside ++ ⟨.closeTag tag, closeLine⟩ :: tokens)))
        (.element tag attributes children line :: nodes)

/-! ## Derivations are unique -/

/-- Tokens that do not begin with the name of an attribute. -/
def EndsAttributes (tokens : List Token) : Prop :=
  ∀ token ∈ tokens.head?, ∀ name, token.symbol ≠ .name name

/-- Tokens that begin with a close tag, or none. -/
def EndsContent (tokens : List Token) : Prop :=
  ∀ token ∈ tokens.head?, ∃ name, token.symbol = .closeTag name

/-- Attributes reach as far as there are names. -/
theorem DerivesAttributes.append_unique
    {tokens tokens' rest rest' : List Token}
    {attributes attributes' : Dictionary Text}
    (first : DerivesAttributes tokens attributes)
    (second : DerivesAttributes tokens' attributes')
    (ends : EndsAttributes rest)
    (ends' : EndsAttributes rest')
    (same : tokens ++ rest = tokens' ++ rest') :
    attributes = attributes' ∧ rest = rest' := by
  induction first generalizing tokens' attributes' with
  | none =>
      cases second with
      | none => exact ⟨rfl, same⟩
      | named name value nameLine equalsLine valueLine others =>
          rw [List.nil_append] at same
          subst same
          exact absurd rfl (ends _ rfl name)
  | named name value nameLine equalsLine valueLine others
      induction_hypothesis =>
      cases second with
      | none =>
          rw [List.nil_append] at same
          subst same
          exact absurd rfl (ends' _ rfl name)
      | named name' value' nameLine' equalsLine' valueLine' others' =>
          simp only [List.cons_append, List.cons.injEq, Token.mk.injEq,
            Symbol.name.injEq, Symbol.string.injEq, true_and] at same
          rcases same with ⟨⟨rfl, _⟩, _, ⟨rfl, _⟩, same⟩
          rcases induction_hypothesis others' same with ⟨rfl, rest_eq⟩
          exact ⟨rfl, rest_eq⟩

/-- The token behind the attributes of a start tag shows where they end. -/
theorem DerivesAttributes.end_unique
    {tokens tokens' rest rest' : List Token}
    {attributes attributes' : Dictionary Text}
    {symbol symbol' : Symbol}
    {line line' : Nat}
    (first : DerivesAttributes tokens attributes)
    (second : DerivesAttributes tokens' attributes')
    (notName : ∀ name, symbol ≠ .name name)
    (notName' : ∀ name, symbol' ≠ .name name)
    (same : tokens ++ ⟨symbol, line⟩ :: rest =
      tokens' ++ ⟨symbol', line'⟩ :: rest') :
    attributes = attributes' ∧ symbol = symbol' ∧ rest = rest' := by
  have ends : EndsAttributes (⟨symbol, line⟩ :: rest) := by
    rintro token ⟨rfl⟩
    exact notName
  have ends' : EndsAttributes (⟨symbol', line'⟩ :: rest') := by
    rintro token ⟨rfl⟩
    exact notName'
  rcases first.append_unique second ends ends' same with
    ⟨attributes_eq, rest_eq⟩
  cases rest_eq
  exact ⟨attributes_eq, rfl, rfl⟩

theorem EndsContent.closeTag
    (name : Text)
    (line : Nat)
    (tokens : List Token) :
    EndsContent (⟨.closeTag name, line⟩ :: tokens) := by
  rintro token ⟨rfl⟩
  exact ⟨name, rfl⟩

/-- Content that is empty in one derivation is empty in any other. -/
theorem Derives.eq_nil_of_endsContent
    {tokens rest rest' : List Token}
    {nodes : List Node}
    (derived : Derives tokens nodes)
    (ends : EndsContent rest)
    (same : rest = tokens ++ rest') :
    nodes = [] ∧ rest = rest' := by
  cases derived with
  | empty => exact ⟨rfl, same⟩
  | _ =>
      subst same
      rcases ends _ rfl with ⟨_, impossible⟩
      cases impossible

/-- Content reaches as far as its elements are closed. -/
theorem Derives.append_unique
    {tokens tokens' rest rest' : List Token}
    {nodes nodes' : List Node}
    (first : Derives tokens nodes)
    (second : Derives tokens' nodes')
    (ends : EndsContent rest)
    (ends' : EndsContent rest')
    (same : tokens ++ rest = tokens' ++ rest') :
    nodes = nodes' ∧ rest = rest' := by
  induction first generalizing tokens' nodes' rest rest' with
  | empty =>
      rcases second.eq_nil_of_endsContent ends same with ⟨rfl, rest_eq⟩
      exact ⟨rfl, rest_eq⟩
  | text value line others induction_hypothesis =>
      cases second with
      | empty =>
          rcases (Derives.text value line others).eq_nil_of_endsContent ends'
            same.symm with ⟨impossible, _⟩
          cases impossible
      | text value' line' others' =>
          simp only [List.cons_append, List.cons.injEq, Token.mk.injEq,
            Symbol.text.injEq] at same
          rcases same with ⟨⟨rfl, _⟩, same⟩
          rcases induction_hypothesis others' ends ends' same with
            ⟨rfl, rest_eq⟩
          exact ⟨rfl, rest_eq⟩
      | _ => simp at same
  | selfClosed tag line endLine derived distinct others induction_hypothesis =>
      cases second with
      | empty =>
          rcases (Derives.selfClosed tag line endLine derived distinct
            others).eq_nil_of_endsContent ends' same.symm with ⟨impossible, _⟩
          cases impossible
      | text => simp at same
      | selfClosed tag' line' endLine' derived' distinct' others' =>
          simp only [List.cons_append, List.append_assoc, List.cons.injEq,
            Token.mk.injEq, Symbol.openTag.injEq] at same
          rcases same with ⟨⟨rfl, rfl⟩, same⟩
          rcases derived.end_unique derived' (by simp) (by simp) same with
            ⟨rfl, _, same⟩
          rcases induction_hypothesis others' ends ends' same with
            ⟨rfl, rest_eq⟩
          exact ⟨rfl, rest_eq⟩
      | paired tag' line' endLine' closeLine' derived' distinct' content'
          others' =>
          simp only [List.cons_append, List.append_assoc, List.cons.injEq]
            at same
          rcases derived.end_unique derived' (by simp) (by simp) same.2 with
            ⟨_, impossible, _⟩
          cases impossible
  | paired tag line endLine closeLine derived distinct content others
      content_hypothesis others_hypothesis =>
      cases second with
      | empty =>
          rcases (Derives.paired tag line endLine closeLine derived distinct
            content others).eq_nil_of_endsContent ends' same.symm with
            ⟨impossible, _⟩
          cases impossible
      | text => simp at same
      | selfClosed tag' line' endLine' derived' distinct' others' =>
          simp only [List.cons_append, List.append_assoc, List.cons.injEq]
            at same
          rcases derived.end_unique derived' (by simp) (by simp) same.2 with
            ⟨_, impossible, _⟩
          cases impossible
      | paired tag' line' endLine' closeLine' derived' distinct' content'
          others' =>
          simp only [List.cons_append, List.append_assoc, List.cons.injEq,
            Token.mk.injEq, Symbol.openTag.injEq] at same
          rcases same with ⟨⟨rfl, rfl⟩, same⟩
          rcases derived.end_unique derived' (by simp) (by simp) same with
            ⟨rfl, _, same⟩
          rcases content_hypothesis content' (.closeTag _ _ _)
            (.closeTag _ _ _) same with ⟨rfl, same⟩
          simp only [List.cons.injEq] at same
          rcases others_hypothesis others' ends ends' same.2 with
            ⟨rfl, rest_eq⟩
          exact ⟨rfl, rest_eq⟩

/-- Tokens have at most one derivation. -/
theorem Derives.unique
    {tokens : List Token}
    {nodes nodes' : List Node}
    (first : Derives tokens nodes)
    (second : Derives tokens nodes') :
    nodes = nodes' := by
  have noRest : EndsContent [] := by
    simp [EndsContent]
  exact (first.append_unique second noRest noRest rfl).1

/-! ## Joining neighbouring texts -/

/-- Puts a node in front of others, joining it to a text if it is one too. -/
def joinFirst : Node → List Node → List Node
  | .text value, .text next :: nodes => .text (value ++ next) :: nodes
  | node, nodes => node :: nodes

mutual

/-- A node with neighbouring texts inside it joined, at every depth. -/
def Node.joined : Node → Node
  | .text value => .text value
  | .element tag attributes children line =>
      .element tag attributes (joinSiblings children) line

/-- Nodes with neighbouring texts joined, at every depth. -/
def joinSiblings : List Node → List Node
  | [] => []
  | node :: nodes => joinFirst node.joined (joinSiblings nodes)

end

/-- No two texts are neighbours, at any depth. -/
inductive Separated : List Node → Prop where
  | empty : Separated []
  | text
      (value : Text)
      {nodes : List Node}
      (noText : ∀ node ∈ nodes.head?, node.text? = none)
      (others : Separated nodes) :
      Separated (.text value :: nodes)
  | element
      (tag : Text)
      (attributes : Dictionary Text)
      (line : Nat)
      {children nodes : List Node}
      (content : Separated children)
      (others : Separated nodes) :
      Separated (.element tag attributes children line :: nodes)

theorem Separated.joinFirst_text
    {nodes : List Node}
    (separated : Separated nodes)
    (value : Text) :
    Separated (joinFirst (.text value) nodes) := by
  cases separated with
  | empty => exact .text value (by simp) .empty
  | text next noText others => exact .text (value ++ next) noText others
  | element tag attributes line content others =>
      refine .text value ?_ (.element tag attributes line content others)
      rintro node ⟨rfl⟩
      rfl

/-- After joining, no two texts are neighbours. -/
theorem separated_joinSiblings : (nodes : List Node) →
    Separated (joinSiblings nodes)
  | [] => .empty
  | .text value :: nodes =>
      (separated_joinSiblings nodes).joinFirst_text value
  | .element tag attributes children line :: nodes =>
      .element tag attributes line (separated_joinSiblings children)
        (separated_joinSiblings nodes)

/-! ## What a document says -/

/-- What tokens and nodes say, in the order of the document. -/
inductive Item where
  | point (point : CodePoint)
  | opened (tag : Text) (line : Nat)
  | name (name : Text)
  | value (value : Text)
  | closed
deriving DecidableEq

/-- What a token says, in items. -/
def Token.items (token : Token) : List Item :=
  match token.symbol with
  | .text value => value.map .point
  | .openTag tag => [.opened tag token.line]
  | .name name => [.name name]
  | .string value => [.value value]
  | .selfClose | .closeTag _ => [.closed]
  | .equals | .tagEnd => []

/-- What the attributes of an element say. -/
def attributeItems (attributes : Dictionary Text) : List Item :=
  attributes.flatMap fun (name, value) => [.name name, .value value]

mutual

/-- What a node says. -/
def Node.items : Node → List Item
  | .text value => value.map .point
  | .element tag attributes children line =>
      .opened tag line :: (attributeItems attributes ++
        (siblingItems children ++ [.closed]))

/-- What nodes say one after another. -/
def siblingItems : List Node → List Item
  | [] => []
  | node :: nodes => node.items ++ siblingItems nodes

end

@[simp]
theorem siblingItems_joinFirst
    (node : Node)
    (nodes : List Node) :
    siblingItems (joinFirst node nodes) = node.items ++ siblingItems nodes := by
  unfold joinFirst
  split
  · simp [siblingItems, Node.items]
  · rfl

/-- Joining texts leaves what is said as it is. -/
@[simp]
theorem siblingItems_joinSiblings : (nodes : List Node) →
    siblingItems (joinSiblings nodes) = siblingItems nodes
  | [] => rfl
  | .text value :: nodes => by
      rw [joinSiblings, siblingItems_joinFirst,
        siblingItems_joinSiblings nodes, siblingItems, Node.joined]
  | .element tag attributes children line :: nodes => by
      rw [joinSiblings, siblingItems_joinFirst,
        siblingItems_joinSiblings nodes, siblingItems, Node.joined,
        Node.items, Node.items, siblingItems_joinSiblings children]

theorem DerivesAttributes.items_eq
    {tokens : List Token}
    {attributes : Dictionary Text}
    (derived : DerivesAttributes tokens attributes) :
    attributeItems attributes = tokens.flatMap Token.items := by
  induction derived with
  | none => rfl
  | named name value nameLine equalsLine valueLine others
      induction_hypothesis =>
      simpa [attributeItems, Token.items] using induction_hypothesis

/-- The nodes of a derivation say what the tokens say, in the same order. -/
theorem Derives.items_eq
    {tokens : List Token}
    {nodes : List Node}
    (derived : Derives tokens nodes) :
    siblingItems nodes = tokens.flatMap Token.items := by
  induction derived with
  | empty => rfl
  | text value line others induction_hypothesis =>
      simp [siblingItems, Node.items, Token.items, induction_hypothesis]
  | selfClosed tag line endLine derived distinct others induction_hypothesis =>
      simp [siblingItems, Node.items, Token.items, derived.items_eq,
        induction_hypothesis]
  | paired tag line endLine closeLine derived distinct content others
      content_hypothesis others_hypothesis =>
      simp [siblingItems, Node.items, Token.items, derived.items_eq,
        content_hypothesis, others_hypothesis]

end AnnotatedSql.Markup
