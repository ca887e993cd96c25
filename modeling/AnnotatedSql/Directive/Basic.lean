import AnnotatedSql.Statement.Locals

/-!
# Directives

The body of a statement is a sequence of directives.  Each contributes a
fragment to the probe query and a fragment to the final text, and has a say in
the result columns of the probe query.
-/

namespace AnnotatedSql

/-- What can be asked of a directive. -/
inductive DirectiveOperation where
  | read
  | queryFragment
  | processColumns
  | fragment
deriving DecidableEq

/-- There is an answer that fits any directive.  It is to leave the result
columns alone; everything else is for each kind of directive to say. -/
def DirectiveOperation.hasDefault : DirectiveOperation → Bool
  | processColumns => true
  | read | queryFragment | fragment => false

/-- A directive as it was read.  The directives that only declare something
leave no trace here.
-/
inductive Directive where
  | text (value : Text)
  | declaration
  | replacement (probed final : Text)
  | wildcard (token : Wildcard.MarkerToken) (expanded : Wildcard)

namespace Directive

/-- What a directive contributes to the probe query. -/
def queryFragment (quote : Text → Text) : Directive → Text
  | .text value => value
  | .declaration => []
  | .replacement probed _ => probed
  | .wildcard token expanded => expanded.probe quote token

/-- What a directive contributes to the final text. -/
def fragment (quote : Text → Text) : Directive → Text
  | .text value => value
  | .declaration => []
  | .replacement _ final => final
  | .wildcard _ expanded => expanded.expansion quote

/-- What a directive does to the result columns.  Wildcards attribute them to
the tables of all wildcards of the statement, once; other directives leave them
alone. -/
def processColumns
    (directive : Directive)
    (columns : List ResultColumn)
    (locals : StatementLocals) :
    Except Wildcard.AttributionError Unit × List ResultColumn ×
      StatementLocals :=
  match directive, locals.get? .wildcards with
  | .wildcard _ _, some resolution =>
      let (outcome, columns, resolution) := resolution.process columns
      (outcome, columns, locals.put .wildcards (some resolution))
  | _, _ => (.ok (), columns, locals)

/-- What a list of directives does to the result columns, up to the first
failure. -/
def processAll
    (columns : List ResultColumn)
    (locals : StatementLocals) :
    List Directive → Except Wildcard.AttributionError Unit ×
      List ResultColumn × StatementLocals
  | [] => (.ok (), columns, locals)
  | directive :: directives =>
      match directive.processColumns columns locals with
      | (.ok (), columns, locals) => processAll columns locals directives
      | (.error error, columns, locals) => (.error error, columns, locals)

end Directive

end AnnotatedSql
