import AnnotatedSql.Statement.Verb
import AnnotatedSql.Text.Blank
import AnnotatedSql.Text.Numeral

/-!
# Faults of statements

Why a document is not a file of statements, and why a statement is not one of a
known kind.
-/

namespace AnnotatedSql

/-- What is wrong with a statement. -/
inductive StatementError where
  | noVerb (text : Text)
  | unsupportedVerb (word : Text)
  | declaredDifferently (declared actual : Verb)
  | textOutside (text : Text)
  | unknownElement (tag : Text) (line : Nat)
  | missingName (tag : Text) (line : Nat)
  | duplicateName (name : Text) (line : Nat)
deriving DecidableEq

/-- The wording of a fault. -/
def StatementError.message : StatementError → Text
  | noVerb text => "Can't determine statement type of " ++ text.quoted
  | unsupportedVerb word => "Unsupported statement type '" ++ word ++ "'"
  | declaredDifferently declared actual =>
      "Declared as " ++ declared.name ++ " but is " ++ actual.name
  | textOutside text =>
      "Unexpected text outside of statements: " ++ text.trim.quoted
  | unknownElement tag line =>
      "Unknown statement element <" ++ tag ++ "> (line " ++
        Numeral.ofNat line ++ ")"
  | missingName tag line =>
      "Missing 'name' attribute in <" ++ tag ++ "> element (line " ++
        Numeral.ofNat line ++ ")"
  | duplicateName name line =>
      "Duplicate statement name '" ++ name ++ "' (line " ++
        Numeral.ofNat line ++ ")"

end AnnotatedSql
