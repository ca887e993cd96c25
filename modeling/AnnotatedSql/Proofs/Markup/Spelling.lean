import AnnotatedSql.Proofs.Markup.Grammar
import AnnotatedSql.Proofs.Markup.Lexing

/-!
# Writing nodes

The same nodes can be written in many ways.  A text is written in pieces,
escaped or as character data, and the value of an attribute between quotation
marks of either kind; tags hold space, comments stand between the pieces of
content, and an element without nodes may end itself.  `Spells` relates nodes
to every document that writes them.

Every node has a spelling, but only `Writable` nodes can be told from it:
their names are names, no element names an attribute twice, and no text is
empty or next to another.
-/

namespace AnnotatedSql.Markup

/-! ## Pieces of content -/

/-- A part of a text as it is written, or a comment. -/
inductive Piece where
  | escaped (value : Text)
  | verbatim (value : Text)
  | comment (inside : Text)

namespace Piece

/-- The text that a piece stands for. -/
def value : Piece → Text
  | escaped value => value
  | verbatim value => value
  | comment _ => []

/-- A piece as it stands in a document. -/
def spelling : Piece → Text
  | escaped value => escape .lessThan value
  | verbatim value => "<![CDATA[" ++ (value ++ "]]>")
  | comment inside => "<!--" ++ (inside ++ "-->")

/-- A piece whose end is not written inside it. -/
def Closed : Piece → Prop
  | escaped _ => True
  | verbatim value => Text.occursIn "]]>" value = false
  | comment inside => Text.occursIn "-->" inside = false

end Piece

/-! ## Attributes and elements -/

/-- A written list of attributes, each with space before it. -/
inductive SpellsAttributes : Dictionary Text → Text → Prop where
  | none : SpellsAttributes [] []
  | named
      (name value before afterName beforeValue : Text)
      {quote : NamedCharacter}
      {document : Text}
      {attributes : Dictionary Text}
      (isQuote : quote = .quotationMark ∨ quote = .apostrophe)
      (separated : before ≠ [])
      (before_space : IsSpace before)
      (afterName_space : IsSpace afterName)
      (beforeValue_space : IsSpace beforeValue)
      (others : SpellsAttributes attributes document) :
      SpellsAttributes ((name, value) :: attributes)
        (before ++ (name ++ (afterName ++ (CodePoint.scalar '=' ::
          (beforeValue ++ (CodePoint.scalar quote.character ::
            (escape quote value ++
              ([CodePoint.scalar quote.character] ++ document))))))))

/-- Nodes and a document that writes them. -/
inductive Spells : List Node → Text → Prop where
  | empty : Spells [] []
  | comment
      {inside document : Text}
      {nodes : List Node}
      (closed : (Piece.comment inside).Closed)
      (others : Spells nodes document) :
      Spells nodes ((Piece.comment inside).spelling ++ document)
  | text
      {value document : Text}
      {pieces : List Piece}
      {nodes : List Node}
      (said : pieces.flatMap Piece.value = value)
      (closed : ∀ piece ∈ pieces, piece.Closed)
      (others : Spells nodes document) :
      Spells (.text value :: nodes) (pieces.flatMap Piece.spelling ++ document)
  | childless
      (tag : Text)
      (line : Nat)
      {written space document : Text}
      {attributes : Dictionary Text}
      {nodes : List Node}
      (spelled : SpellsAttributes attributes written)
      (isSpace : IsSpace space)
      (others : Spells nodes document) :
      Spells (.element tag attributes [] line :: nodes)
        (CodePoint.scalar '<' :: (tag ++ (written ++ (space ++
          (("/>" : Text) ++ document)))))
  | paired
      (tag : Text)
      (line : Nat)
      {written space inside closeSpace document : Text}
      {attributes : Dictionary Text}
      {children nodes : List Node}
      (spelled : SpellsAttributes attributes written)
      (isSpace : IsSpace space)
      (content : Spells children inside)
      (closeSpace_space : IsSpace closeSpace)
      (others : Spells nodes document) :
      Spells (.element tag attributes children line :: nodes)
        (CodePoint.scalar '<' :: (tag ++ (written ++ (space ++
          (CodePoint.scalar '>' :: (inside ++ (("</" : Text) ++ (tag ++
            (closeSpace ++ (CodePoint.scalar '>' :: document))))))))))

theorem isSpace_nil : IsSpace [] :=
  nofun

theorem exists_spellsAttributes : (attributes : Dictionary Text) →
    ∃ written, SpellsAttributes attributes written
  | [] => ⟨[], .none⟩
  | (name, value) :: attributes => by
      rcases exists_spellsAttributes attributes with ⟨written, spelled⟩
      have oneSpace : IsSpace [CodePoint.scalar ' '] := by
        rintro point (_ | ⟨_, ⟨⟩⟩)
        exact .inl rfl
      exact ⟨_, .named name value _ [] [] (.inl rfl) (List.cons_ne_nil _ _)
        oneSpace isSpace_nil isSpace_nil spelled⟩

/-- Every list of nodes can be written. -/
theorem exists_spells : (nodes : List Node) →
    ∃ document, Spells nodes document
  | [] => ⟨[], .empty⟩
  | .text value :: nodes => by
      rcases exists_spells nodes with ⟨document, others⟩
      have said : [Piece.escaped value].flatMap Piece.value = value :=
        List.append_nil value
      refine ⟨_, .text said ?_ others⟩
      rintro piece (_ | ⟨_, ⟨⟩⟩)
      trivial
  | .element tag attributes children line :: nodes => by
      rcases exists_spellsAttributes attributes with ⟨written, spelled⟩
      rcases exists_spells children with ⟨inside, content⟩
      rcases exists_spells nodes with ⟨document, others⟩
      exact ⟨_, .paired tag line spelled isSpace_nil content isSpace_nil others⟩

/-! ## Nodes that can be told from their spelling -/

/-- Nodes whose names are names, without repeated attributes, and without
texts that are empty or neighbours. -/
inductive Writable : List Node → Prop where
  | empty : Writable []
  | text
      {value : Text}
      {nodes : List Node}
      (nonempty : value ≠ [])
      (noText : ∀ node ∈ nodes.head?, node.text? = none)
      (others : Writable nodes) :
      Writable (.text value :: nodes)
  | element
      {tag : Text}
      {attributes : Dictionary Text}
      {children nodes : List Node}
      (line : Nat)
      (tag_name : IsName tag)
      (attribute_names : ∀ name ∈ attributes.names, IsName name)
      (distinct : attributes.names.Nodup)
      (content : Writable children)
      (others : Writable nodes) :
      Writable (.element tag attributes children line :: nodes)

mutual

/-- A node with the lines of all its elements forgotten. -/
def Node.withoutLines : Node → Node
  | .text value => .text value
  | .element tag attributes children _ =>
      .element tag attributes (siblingsWithoutLines children) 0

/-- Nodes with the lines of all their elements forgotten. -/
def siblingsWithoutLines : List Node → List Node
  | [] => []
  | node :: nodes => node.withoutLines :: siblingsWithoutLines nodes

end

end AnnotatedSql.Markup
