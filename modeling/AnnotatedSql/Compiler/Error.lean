import AnnotatedSql.Directive.Error
import AnnotatedSql.Statement.Error
import AnnotatedSql.Wildcard.Resolution

/-!
# Failures of compilation

Why a statement is not compiled.  Faults of the statement itself name it; what
comes from the database or from outside the statement is passed on as it is.
-/

namespace AnnotatedSql

/-- The wording of a fault with the name of its statement. -/
def annotate (message statement : Text) : Text :=
  message ++ " (in statement '" ++ statement ++ "')"

/-- Why a statement is not compiled. -/
inductive CompileFault where
  | directive (error : DirectiveError)
  | statement (error : StatementError)
  | violation (error : Wildcard.ProtocolError)
  | notText (node : Markup.Node)
  | notElement (node : Markup.Node)
  | invalidToken (token : Text)
  | numeral (error : Numeral.ReadError)
  | database (message : Text)

namespace CompileFault

/-- The failure of reading a directive. -/
def ofReadError : Directive.ReadError → CompileFault
  | .directive error => directive error
  | .notText node => notText node
  | .notElement node => notElement node
  | .invalidToken token => invalidToken token

/-- The failure of attributing result columns. -/
def ofAttributionError : Wildcard.AttributionError → CompileFault
  | .violation error => violation error
  | .numeral error => numeral error

/-- The fault is one of the statement, whose name belongs into the message. -/
def namesStatement : CompileFault → Bool
  | directive _ | statement _ | violation _ => true
  | _ => false

/-- The wording of a failure, without the name of the statement. -/
def message : CompileFault → Text
  | directive error => error.message
  | statement error => error.message
  | violation error => error.message
  | notText node => (Directive.ReadError.notText node).message
  | notElement node => (Directive.ReadError.notElement node).message
  | invalidToken token => (Directive.ReadError.invalidToken token).message
  | numeral error => error.message
  | database message => message

end CompileFault

/-- A failure of a statement's compilation. -/
structure CompileError where
  fault : CompileFault
  statement : Text

/-- The wording of a failure. -/
def CompileError.message (error : CompileError) : Text :=
  if error.fault.namesStatement then
    annotate error.fault.message error.statement
  else error.fault.message

end AnnotatedSql
