import AnnotatedSql.Markup.Node
import AnnotatedSql.Text.Numeral

/-!
# Faults of directives

Why an element is not a directive, or not one that can be used where it stands.
-/

namespace AnnotatedSql

/-- What is wrong with a directive. -/
inductive DirectiveError where
  | unknown (tag : Text)
  | notEmpty (tag : Text) (line : Nat)
  | missingAttribute (name tag : Text) (line : Nat)
  | duplicateArgument (name : Text)
  | missingReplacement (line : Nat)
  | replacedElements (line : Nat)
  | conflictingAliases (line : Nat)
  | tableNotFound (table : Text) (line : Nat)
deriving DecidableEq

/-- The wording of a fault. -/
def DirectiveError.message : DirectiveError → Text
  | unknown tag => "Unknown directive <" ++ tag ++ ">"
  | notEmpty tag line =>
      "<" ++ tag ++ "> directive must be empty (line " ++ Numeral.ofNat line ++
        ")"
  | missingAttribute name tag line =>
      "Missing '" ++ name ++ "' attribute in <" ++ tag ++
        "> directive (line " ++ Numeral.ofNat line ++ ")"
  | duplicateArgument name => "Duplicate arg name '" ++ name ++ "'"
  | missingReplacement line =>
      "Missing 'with' attribute in <replace> directive (line " ++
        Numeral.ofNat line ++ ")"
  | replacedElements line =>
      "<replace> directive may only contain text (line " ++
        Numeral.ofNat line ++ ")"
  | conflictingAliases line =>
      "Conflicting 'as' and 'alias' attributes in <wildcard> directive " ++
        "(line " ++ Numeral.ofNat line ++ ")"
  | tableNotFound table line =>
      "Table '" ++ table ++ "' not found for <wildcard> directive (line " ++
        Numeral.ofNat line ++ ")"

/-- Why a directive cannot be made of a node: the directive is at fault, the
node is of the wrong kind, or the marker token it needs is not one. -/
inductive Directive.ReadError where
  | directive (error : DirectiveError)
  | notText (node : Markup.Node)
  | notElement (node : Markup.Node)
  | invalidToken (token : Text)

/-- The wording of a failure. -/
def Directive.ReadError.message : Directive.ReadError → Text
  | directive error => error.message
  | notText node => "Expected a text node, got " ++ node.display
  | notElement node => "Expected an element node, got " ++ node.display
  | invalidToken token => "Invalid marker token '" ++ token ++ "'"

end AnnotatedSql
