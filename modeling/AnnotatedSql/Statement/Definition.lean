import AnnotatedSql.Markup.Parser
import AnnotatedSql.Statement.FirstWord

/-!
# Statement definitions

A statement file is a document whose elements define statements; between them
there is only space.  The tag of an element says which verb the statement is to
have, and `stmt` leaves it open.  Every statement has a name of its own.
-/

namespace AnnotatedSql

open AnnotatedSql.Markup

/-- A statement as it is written, before it is compiled. -/
structure StatementDefinition where
  name : Text
  body : List Node
  declared : Option Verb

namespace StatementDefinition

/-- The tags that define statements, with the verb that each declares. -/
def tags : List (Text × Option Verb) :=
  [("stmt", none), ("select", some .select), ("insert", some .insert),
    ("update", some .update), ("delete", some .delete)]

/-- The definition that an element gives, when some names are taken. -/
def ofElement
    (taken : List Text)
    (element : Element) : Except StatementError StatementDefinition :=
  match tags.lookup element.tag with
  | none => .error (.unknownElement element.tag element.line)
  | some declared =>
      match element.attribute? "name" with
      | none | some [] => .error (.missingName element.tag element.line)
      | some name =>
          if name ∈ taken then
            .error (.duplicateName name element.line)
          else
            .ok ⟨name, element.children, declared⟩

/-- The definitions of the nodes of a document, when some names are taken. -/
def ofNodes (taken : List Text) :
    List Node → Except StatementError (List StatementDefinition)
  | [] => .ok []
  | node :: nodes =>
      match node.element? with
      | none =>
          if node.isBlankText then ofNodes taken nodes
          else .error (.textOutside (node.text?.getD []))
      | some element => do
        let definition ← ofElement taken element
        let definitions ← ofNodes (definition.name :: taken) nodes
        return definition :: definitions

end StatementDefinition

/-- Why a document is not a file of statements. -/
inductive SourceError where
  | markup (error : Markup.Error)
  | statement (error : StatementError)

/-- The definitions of a document in document order, with the parser left for
the next one. -/
def Markup.Parser.parseStatements
    (parser : Parser)
    (document : Text) :
    Except SourceError (List StatementDefinition) × Parser :=
  match parser.parse document with
  | (.error error, parser) => (.error (.markup error), parser)
  | (.ok nodes, parser) =>
      ((StatementDefinition.ofNodes [] nodes).mapError .statement, parser)

end AnnotatedSql
