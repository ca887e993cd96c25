import AnnotatedSql.Directive.Basic
import AnnotatedSql.Directive.Registry
import AnnotatedSql.Schema.Catalog
import AnnotatedSql.Wildcard.TokenSupply

/-!
# Reading directives

A directive is made of a node of a statement's body.  What it declares goes into
the state that the statement's directives share.  A directive that is refused
leaves that state as it was, though it may have drawn a token.
-/

namespace AnnotatedSql

open AnnotatedSql.Markup AnnotatedSql.Schema AnnotatedSql.Wildcard

/-- A statement while its directives are read: the state they share, and the
supply of tokens. -/
structure Draft where
  locals : StatementLocals := {}
  supply : TokenSupply

namespace Draft

/-- The wildcards of the statement, with a new token if there are none yet.
`token` makes a token and what is left of the supply. -/
def wildcardsWith
    (draft : Draft)
    (token : TokenSupply → Text × TokenSupply) :
    Except Directive.ReadError Resolution × Draft :=
  match draft.locals.get? .wildcards with
  | some resolution => (.ok resolution, draft)
  | none =>
      let (text, supply) := token draft.supply
      match MarkerToken.ofText? text with
      | none => (.error (.invalidToken text), { draft with supply })
      | some token =>
          let resolution : Resolution := { token }
          (.ok resolution,
            { locals := draft.locals.put .wildcards (some resolution), supply })

end Draft

/-! ## What an element says -/

namespace Markup.Element

/-- An attribute that has to be there with a value that is not empty. -/
def required
    (element : Element)
    (name : Text) : Except DirectiveError Text :=
  match element.attribute? name with
  | none | some [] => .error (.missingAttribute name element.tag element.line)
  | some value => .ok value

/-- Refuses an element with content. -/
def requireEmpty (element : Element) : Except DirectiveError Unit :=
  if element.isEmpty then .ok ()
  else .error (.notEmpty element.tag element.line)

/-- The argument that an element declares, next to the arguments declared
before. -/
def argument
    (element : Element)
    (declared : List Argument) : Except DirectiveError Argument := do
  element.requireEmpty
  let name ← element.required "name"
  let type ← element.required "type"
  if declared.any fun argument => argument.name = name then
    .error (.duplicateArgument name)
  else
    return ⟨name, type⟩

/-- The name and the value that an element assigns; the value may be left
out. -/
def assignment (element : Element) : Except DirectiveError (Text × Text) := do
  element.requireEmpty
  let name ← element.required "name"
  return (name, (element.attribute? "value").getD [])

/-- The names and values that an element assigns: all its attributes. -/
def assignments (element : Element) :
    Except DirectiveError (Dictionary Text) := do
  element.requireEmpty
  return element.attributes

/-- The text inside an element and the text that is to replace it. -/
def replacement (element : Element) : Except DirectiveError (Text × Text) :=
  match element.attribute? "with" with
  | none => .error (.missingReplacement element.line)
  | some final =>
      if element.elements.isEmpty then .ok (element.text, final)
      else .error (.replacedElements element.line)

/-- The alias that an element gives to its table.  It may be given under two
names, but not differently. -/
def givenAlias (element : Element) : Except DirectiveError Text :=
  match element.attribute? "as", element.attribute? "alias" with
  | none, none => .ok []
  | some given, none | none, some given => .ok given
  | some first, some second =>
      if first = second then .ok first
      else .error (.conflictingAliases element.line)

/-- The table and the alias of a wildcard. -/
def wildcard
    (element : Element)
    (catalog : Catalog) : Except DirectiveError (Table × Text) := do
  element.requireEmpty
  let name ← element.required "table"
  let tableAlias ← element.givenAlias
  match catalog.tableNamed? name with
  | some table => return (table, tableAlias)
  | none => .error (.tableNotFound name element.line)

end Markup.Element

/-! ## Making the directive -/

namespace Directive

/-- Makes an argument directive of an element. -/
def readArgument
    (element : Element)
    (draft : Draft) : Except Directive.ReadError Directive × Draft :=
  let declared := (draft.locals.get? .arguments).getD []
  match element.argument declared with
  | .error error => (.error (.directive error), draft)
  | .ok argument =>
      let arguments : List Argument := declared ++ [argument]
      (.ok .declaration,
        { draft with locals := draft.locals.put .arguments (some arguments) })

/-- Makes a directive of an element that assigns values to names. -/
def readAssignments
    (assignments : Except DirectiveError (Dictionary Text))
    (draft : Draft) : Except Directive.ReadError Directive × Draft :=
  match assignments with
  | .error error => (.error (.directive error), draft)
  | .ok assignments =>
      let bindings :=
        Dictionary.putAll ((draft.locals.get? .bindings).getD []) assignments
      (.ok .declaration,
        { draft with locals := draft.locals.put .bindings (some bindings) })

/-- Makes a wildcard of an element. -/
def readWildcard
    (catalog : Catalog)
    (element : Element)
    (draft : Draft) : Except Directive.ReadError Directive × Draft :=
  match element.wildcard catalog with
  | .error error => (.error (.directive error), draft)
  | .ok (table, tableAlias) =>
      match draft.wildcardsWith TokenSupply.draw with
      | (.error error, draft) => (.error error, draft)
      | (.ok resolution, draft) =>
          let (expanded, resolution) := resolution.register table tableAlias
          (.ok (.wildcard resolution.token expanded),
            { draft with
              locals := draft.locals.put .wildcards (some resolution) })

/-- Makes a directive of a kind of an element. -/
def readElement
    (catalog : Catalog)
    (kind : DirectiveKind)
    (element : Element)
    (draft : Draft) : Except Directive.ReadError Directive × Draft :=
  match kind with
  | .argument => readArgument element draft
  | .binding =>
      readAssignments (element.assignment.map fun pair => [pair]) draft
  | .bindings => readAssignments element.assignments draft
  | .replacement =>
      match element.replacement with
      | .error error => (.error (.directive error), draft)
      | .ok (probed, final) => (.ok (.replacement probed final), draft)
  | .wildcard => readWildcard catalog element draft
  | .text =>
      (.error
          (.notText
            (.element element.tag element.attributes element.children
              element.line)),
        draft)

/-- Makes a directive of a kind of a node. -/
def read
    (catalog : Catalog)
    (kind : DirectiveKind)
    (node : Node)
    (draft : Draft) : Except Directive.ReadError Directive × Draft :=
  match node with
  | .text value =>
      match kind with
      | .text => (.ok (.text value), draft)
      | _ => (.error (.notElement (.text value)), draft)
  | .element tag attributes children line =>
      readElement catalog kind ⟨tag, attributes, children, line⟩ draft

end Directive

end AnnotatedSql
