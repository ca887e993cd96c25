import AnnotatedSql.Text.Numeral

/-!
# Faults in markup

Every reason for which a document is not well-formed markup, and its wording.
Lines are counted from one.
-/

namespace AnnotatedSql.Markup

/-- Why a document is not well-formed. -/
inductive Error where
  | invalidReference (spelling : Text)
  | illegalMarkup (excerpt : Text) (line : Nat)
  | illegalCharacter (found : CodePoint) (line : Nat)
  | unexpectedToken (value : Text) (line : Nat)
  | unexpectedEnd
  | mismatchedCloseTag (expected found : Text) (line : Nat)
  | duplicateAttribute (name : Text) (line : Nat)
deriving DecidableEq

/-- The wording of a fault. -/
def Error.message : Error → Text
  | invalidReference spelling =>
      "Invalid character reference '" ++ spelling ++ "'"
  | illegalMarkup excerpt line =>
      "Illegal markup '" ++ excerpt ++ "' at line " ++ Numeral.ofNat line
  | illegalCharacter found line =>
      "Illegal character '" ++ [found] ++ "' in tag at line " ++
        Numeral.ofNat line
  | unexpectedToken value line =>
      "Syntax error at '" ++ value ++ "' (line " ++ Numeral.ofNat line ++ ")"
  | unexpectedEnd => "Syntax error at end of input (unclosed element?)"
  | mismatchedCloseTag expected found line =>
      "Expected </" ++ expected ++ "> but got </" ++ found ++ "> (line " ++
        Numeral.ofNat line ++ ")"
  | duplicateAttribute name line =>
      "Duplicate attribute '" ++ name ++ "' (line " ++ Numeral.ofNat line ++ ")"

end AnnotatedSql.Markup
