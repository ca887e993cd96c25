import AnnotatedSql.Compiler.Error
import AnnotatedSql.Compiler.Session
import AnnotatedSql.Directive.Reading
import AnnotatedSql.Statement.Definition

/-!
# Compiling statements

A statement is compiled in two passes over its directives.  The fragments of the
first pass make up the probe query, whose verb is the statement's; the query of
a SELECT statement is executed to learn the result columns, which the directives
then attribute.  The fragments of the second pass make up the final text.
-/

namespace AnnotatedSql

open AnnotatedSql.Markup AnnotatedSql.Schema

/-- A compiled statement. -/
structure Statement where
  name : Text
  verb : Verb
  text : Text
  query : Text
  columns : List ResultColumn
  locals : StatementLocals

/-- What all statements are compiled against. -/
structure Compiler where
  catalog : Catalog
  quote : Text → Text
  registry : Registry := .standard

namespace Compiler

variable (compiler : Compiler)

/-- The kind of directive that a node is. -/
def kindOf (node : Node) : Except DirectiveError DirectiveKind :=
  match node.element? with
  | none => .ok .text
  | some element => compiler.registry.kind element.tag

/-- The directive that a node is. -/
def readDirective
    (node : Node)
    (draft : Draft) : Except Directive.ReadError Directive × Draft :=
  match compiler.kindOf node with
  | .error error => (.error (.directive error), draft)
  | .ok kind => Directive.read compiler.catalog kind node draft

/-- The directives of a statement's body. -/
def readBody (draft : Draft) :
    List Node → Except Directive.ReadError (List Directive) × Draft
  | [] => (.ok [], draft)
  | node :: nodes =>
      match compiler.readDirective node draft with
      | (.error error, draft) => (.error error, draft)
      | (.ok directive, draft) =>
          match readBody draft nodes with
          | (.error error, draft) => (.error error, draft)
          | (.ok directives, draft) => (.ok (directive :: directives), draft)

/-- The probe query of a list of directives. -/
def query (directives : List Directive) : Text :=
  Text.trim (directives.flatMap (Directive.queryFragment compiler.quote))

/-- The final text of a list of directives. -/
def text (directives : List Directive) : Text :=
  Text.trim (directives.flatMap (Directive.fragment compiler.quote))

/-- The verb of a query, which has to be the declared one if one is declared. -/
def verbOf
    (declared : Option Verb)
    (query : Text) : Except StatementError Verb := do
  let verb ← Verb.ofText query
  match declared with
  | none => return verb
  | some declared =>
      if declared = verb then return verb
      else .error (.declaredDifferently declared verb)

/-- The result columns of a probe query, attributed by the directives. -/
def resultColumns
    (name query : Text)
    (directives : List Directive)
    (locals : StatementLocals)
    (session : Session) :
    Except CompileFault (List ResultColumn × StatementLocals) × Session :=
  match (session.report (.probing name query)).probe query with
  | (.error message, session) => (.error (.database message), session)
  | (.ok descriptors, session) =>
      let columns := descriptors.map fun descriptor =>
        ({ name := descriptor.name, type := descriptor.type } : ResultColumn)
      match Directive.processAll columns locals directives with
      | (.error error, _, _) => (.error (.ofAttributionError error), session)
      | (.ok (), columns, locals) =>
          (.ok (columns, locals),
            if columns.isEmpty then session.report (.noResultColumns name)
            else session)

/-- The result columns of a statement, of which only a SELECT statement has
any. -/
def columnsOf
    (verb : Verb)
    (name query : Text)
    (directives : List Directive)
    (locals : StatementLocals)
    (session : Session) :
    Except CompileFault (List ResultColumn × StatementLocals) × Session :=
  match verb with
  | .select => resultColumns name query directives locals session
  | .insert | .update | .delete => (.ok ([], locals), session)

/-- A statement made of its directives. -/
def assemble
    (definition : StatementDefinition)
    (directives : List Directive)
    (locals : StatementLocals)
    (session : Session) : Except CompileFault Statement × Session :=
  let query := compiler.query directives
  match verbOf definition.declared query with
  | .error error => (.error (.statement error), session)
  | .ok verb =>
      match columnsOf verb definition.name query directives locals session with
      | (.error fault, session) => (.error fault, session)
      | (.ok (columns, locals), session) =>
          (.ok
              ⟨definition.name, verb, compiler.text directives, query, columns,
                locals⟩,
            session.report (.compiledStatement definition.name verb.name))

/-- Compiles a statement. -/
def compile
    (definition : StatementDefinition)
    (session : Session) : Except CompileError Statement × Session :=
  match compiler.readBody { supply := session.supply } definition.body with
  | (.error error, draft) =>
      (.error ⟨.ofReadError error, definition.name⟩,
        { session with supply := draft.supply })
  | (.ok directives, draft) =>
      match compiler.assemble definition directives draft.locals
          { session with supply := draft.supply } with
      | (.error fault, session) => (.error ⟨fault, definition.name⟩, session)
      | (.ok statement, session) => (.ok statement, session)

/-- Compiles statements in turn, up to the first that fails. -/
def compileAll (session : Session) :
    List StatementDefinition → Except CompileError (List Statement) × Session
  | [] => (.ok [], session)
  | definition :: definitions =>
      match compiler.compile definition session with
      | (.error error, session) => (.error error, session)
      | (.ok statement, session) =>
          match compileAll session definitions with
          | (.error error, session) => (.error error, session)
          | (.ok statements, session) =>
              (.ok (statement :: statements), session)

end Compiler

/-- Why a document is not compiled. -/
inductive DocumentError where
  | source (error : SourceError)
  | statement (error : CompileError)

/-- The definitions of a document, read by the parser of a session. -/
def Session.definitions
    (session : Session)
    (document : Text) :
    Except SourceError (List StatementDefinition) × Session :=
  let (outcome, parser) := session.parser.parseStatements document
  (outcome, { session with parser })

/-- Compiles the statements of a document. -/
def Compiler.compileDocument
    (compiler : Compiler)
    (document : Text)
    (session : Session) : Except DocumentError (List Statement) × Session :=
  match session.definitions document with
  | (.error error, session) => (.error (.source error), session)
  | (.ok definitions, session) =>
      match compiler.compileAll session definitions with
      | (.error error, session) => (.error (.statement error), session)
      | (.ok statements, session) => (.ok statements, session)

end AnnotatedSql
