import AnnotatedSql.Markup.Lexer
import AnnotatedSql.Markup.Node

/-!
# From tokens to nodes

A document is read token by token, with the elements that are still open on a
stack.  What an element or attribute says is checked only when the token after
it has been seen: a close tag is compared with its start tag, and an attribute
with those before it, once the next token is known to be one that can follow.
So of two faults the one that comes first in the document may be reported
second.
-/

namespace AnnotatedSql.Markup

/-- A start tag as far as it has been read. -/
structure StartTag where
  tag : Text
  attributes : Dictionary Text
  line : Nat

/-- An element that is still open, with the siblings before it, latest first. -/
structure OpenElement where
  start : StartTag
  before : List Node

/-- Where in a document the reader stands. -/
inductive ReaderPlace where
  | content
  | afterCloseTag (name : Text) (line : Nat)
  | startTag (start : StartTag)
  | afterName (start : StartTag) (name : Text) (line : Nat)
  | afterEquals (start : StartTag) (name : Text) (line : Nat)
  | afterValue (start : StartTag) (name : Text) (line : Nat) (value : Text)

/-- What has been read: the open elements, innermost first, the nodes inside the
innermost, latest first, and the place. -/
structure Reader where
  ancestors : List OpenElement := []
  nodes : List Node := []
  place : ReaderPlace := .content

/-- Adds text behind the latest node, joining it to text that is already
there. -/
def appendText (value : Text) : List Node → List Node
  | .text before :: nodes => .text (before ++ value) :: nodes
  | nodes => .text value :: nodes

namespace Reader

/-- The fault of a token that cannot stand where it does. -/
def unexpected (token : Token) : Error :=
  .unexpectedToken token.symbol.value token.line

/-- Reads a token of the content. -/
def readContent
    (reader : Reader)
    (token : Token) : Except Error Reader :=
  match token.symbol with
  | .text value =>
      .ok
        { reader with
          nodes := appendText value reader.nodes, place := .content }
  | .openTag name =>
      .ok { reader with place := .startTag ⟨name, [], token.line⟩ }
  | .closeTag name =>
      match reader.ancestors with
      | [] => .error (unexpected token)
      | _ :: _ => .ok { reader with place := .afterCloseTag name token.line }
  | _ => .error (unexpected token)

/-- Reads a token of a start tag, behind its name or an attribute. -/
def readStartTag
    (reader : Reader)
    (start : StartTag)
    (token : Token) : Except Error Reader :=
  match token.symbol with
  | .name name => .ok { reader with place := .afterName start name token.line }
  | .selfClose =>
      let node := Node.element start.tag start.attributes [] start.line
      .ok { reader with nodes := node :: reader.nodes, place := .content }
  | .tagEnd => .ok ⟨⟨start, reader.nodes⟩ :: reader.ancestors, [], .content⟩
  | _ => .error (unexpected token)

/-- Closes the innermost element by a close tag, which has to carry its name. -/
def close
    (reader : Reader)
    (name : Text)
    (line : Nat) : Except Error Reader :=
  match reader.ancestors with
  | [] => .ok { reader with place := .content }
  | ⟨start, before⟩ :: outer =>
      if start.tag = name then
        let node :=
          Node.element start.tag start.attributes reader.nodes.reverse
            start.line
        .ok ⟨outer, node :: before, .content⟩
      else
        .error (.mismatchedCloseTag start.tag name line)

/-- Adds an attribute to a start tag that does not have it yet. -/
def addAttribute
    (start : StartTag)
    (name : Text)
    (line : Nat)
    (value : Text) : Except Error StartTag :=
  if start.attributes.contains name then
    .error (.duplicateAttribute name line)
  else
    .ok { start with attributes := start.attributes ++ [(name, value)] }

/-- A token that may follow an element. -/
def followsElement : Symbol → Bool
  | .text _ | .openTag _ | .closeTag _ => true
  | _ => false

/-- A token that may follow an attribute. -/
def followsAttribute : Symbol → Bool
  | .name _ | .selfClose | .tagEnd => true
  | _ => false

/-- Reads one token. -/
def read
    (reader : Reader)
    (token : Token) : Except Error Reader :=
  match reader.place with
  | .content => reader.readContent token
  | .afterCloseTag name line =>
      if followsElement token.symbol then do
        (← reader.close name line).readContent token
      else
        .error (unexpected token)
  | .startTag start => reader.readStartTag start token
  | .afterName start name line =>
      match token.symbol with
      | .equals => .ok { reader with place := .afterEquals start name line }
      | _ => .error (unexpected token)
  | .afterEquals start name line =>
      match token.symbol with
      | .string value =>
          .ok { reader with place := .afterValue start name line value }
      | _ => .error (unexpected token)
  | .afterValue start name line value =>
      if followsAttribute token.symbol then do
        reader.readStartTag (← addAttribute start name line value) token
      else
        .error (unexpected token)

/-- The nodes of a document that ends in the content, with every element
closed. -/
def finishContent (reader : Reader) : Except Error (List Node) :=
  match reader.ancestors with
  | [] => .ok reader.nodes.reverse
  | _ :: _ => .error .unexpectedEnd

/-- The nodes of a document that ends here. -/
def finish (reader : Reader) : Except Error (List Node) :=
  match reader.place with
  | .content => reader.finishContent
  | .afterCloseTag name line => do (← reader.close name line).finishContent
  | _ => .error .unexpectedEnd

/-- The nodes of a document, given what has been read of it, or the first fault
in what is left, with the lexer left there.  Nothing is read behind a fault. -/
def readFrom
    (reader : Reader)
    (lexer : Lexer) : Except Error (List Node) × Lexer :=
  match _ : lexer.advance with
  | .skipped following => reader.readFrom following
  | .finished => (reader.finish, lexer)
  | .failed error following => (.error error, following)
  | .token token following =>
      match reader.read token with
      | .ok reader => reader.readFrom following
      | .error error => (.error error, following)
termination_by lexer.rest.length
decreasing_by
  all_goals exact Lexer.length_lt_of_advance (by simp [*, Reading.next?])

end Reader

/-- A parser keeps its lexer from one document to the next. -/
structure Parser where
  lexer : Lexer := {}

namespace Parser

/-- The nodes of a document, or its fault, with the parser left for the next
document. -/
def parse
    (parser : Parser)
    (document : Text) : Except Error (List Node) × Parser :=
  let (outcome, last) := Reader.readFrom {} (parser.lexer.reset.input document)
  (outcome, ⟨last⟩)

end Parser

end AnnotatedSql.Markup
