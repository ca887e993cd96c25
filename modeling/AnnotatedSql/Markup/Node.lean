import AnnotatedSql.Dictionary
import AnnotatedSql.Text.Blank
import AnnotatedSql.Text.Numeral

/-!
# Nodes

A well-formed document is a list of nodes, each a run of text or an element with
attributes and further nodes.  `Element` is the view of a node that is an
element; most readers of a document want it rather than the node.
-/

namespace AnnotatedSql.Markup

/-- A run of text, or an element with its tag, attributes, nodes and line. -/
inductive Node where
  | text (value : Text)
  | element
      (tag : Text)
      (attributes : Dictionary Text)
      (children : List Node)
      (line : Nat)

/-- The parts of a node that is an element. -/
structure Element where
  tag : Text
  attributes : Dictionary Text
  children : List Node
  line : Nat

namespace Node

/-- The text of a text node. -/
def text? : Node → Option Text
  | .text value => some value
  | .element .. => none

/-- The parts of an element node. -/
def element? : Node → Option Element
  | .text _ => none
  | .element tag attributes children line =>
      some ⟨tag, attributes, children, line⟩

/-- A text node that holds nothing but space. -/
def isBlankText : Node → Bool
  | .text value => value.isBlank
  | .element .. => false

/-- One attribute as it is displayed. -/
def displayAttribute (pair : Text × Text) : Text :=
  pair.1.quoted ++ ": " ++ pair.2.quoted

mutual

/-- A node as it is displayed in a message. -/
def display : Node → Text
  | .text value => "Text(value=" ++ value.quoted ++ ")"
  | .element tag attributes children line =>
      "Element(tag=" ++ tag.quoted ++ ", attributes=\x7b" ++
        List.intercalate ", " (attributes.map displayAttribute) ++
        "\x7d, children=[" ++ displaySiblings children ++ "], lineno=" ++
        Numeral.ofNat line ++ ")"

/-- The displayed nodes of a list, with commas between them. -/
def displaySiblings : List Node → Text
  | [] => []
  | [node] => node.display
  | first :: second :: rest =>
      first.display ++ ", " ++ displaySiblings (second :: rest)

end

end Node

namespace Element

/-- The value of an attribute. -/
def attribute?
    (element : Element)
    (name : Text) : Option Text :=
  element.attributes.get? name

/-- The text directly inside an element, without that of its elements. -/
def text (element : Element) : Text :=
  (element.children.filterMap Node.text?).flatten

/-- The elements directly inside an element. -/
def elements (element : Element) : List Element :=
  element.children.filterMap Node.element?

/-- The element holds nothing but space. -/
def isEmpty (element : Element) : Bool :=
  element.children.all Node.isBlankText

end Element

end AnnotatedSql.Markup
