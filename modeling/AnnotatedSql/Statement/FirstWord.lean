import AnnotatedSql.Statement.Error

/-!
# The first word of a statement

A SQL text tells its verb by the letters it begins with.
-/

namespace AnnotatedSql

/-- The verb of a SQL text: the letters it begins with, behind space, in any
case. -/
def Verb.ofText (text : Text) : Except StatementError Verb :=
  match text.trimStart.takeWhile CodePoint.isAsciiLetter with
  | [] => .error (.noVerb text)
  | word =>
      match Verb.ofName? (Text.toAsciiUpper word) with
      | some verb => .ok verb
      | none => .error (.unsupportedVerb (Text.toAsciiUpper word))

end AnnotatedSql
