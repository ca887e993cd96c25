import AnnotatedSql.Text.Basic

/-!
# Issues with settings

What is wrong with the settings of a run, and where.
-/

namespace AnnotatedSql

/-- What may be wrong with a setting. -/
inductive IssueKind where
  | missing
  | notString
  | notUnicode
  | tooShort
  | notList
  | notPath
  | unknownKey
  | notObject
deriving DecidableEq

namespace IssueKind

/-- The code of an issue. -/
def code : IssueKind → Text
  | missing => "missing"
  | notString => "string_type"
  | notUnicode => "string_unicode"
  | tooShort => "string_too_short"
  | notList => "list_type"
  | notPath => "path_type"
  | unknownKey => "extra_forbidden"
  | notObject => "model_type"

/-- The wording of an issue. -/
def message : IssueKind → Text
  | missing => "Field required"
  | notString => "Input should be a valid string"
  | notUnicode =>
      "Input should be a valid string, unable to parse raw data as a " ++
        "unicode string"
  | tooShort => "String should have at least 1 character"
  | notList => "Input should be a valid list"
  | notPath => "Input is not a valid path for <class 'pathlib.Path'>"
  | unknownKey => "Extra inputs are not permitted"
  | notObject => "Input should be a valid dictionary or instance of Config"

end IssueKind

/-- Where an issue lies: in the settings as a whole, under a key, or at an item
of the list under a key. -/
inductive IssuePlace where
  | settings
  | key (name : Text)
  | item (name : Text) (index : Nat)
deriving DecidableEq

/-- An issue with its place. -/
structure Issue where
  kind : IssueKind
  place : IssuePlace
deriving DecidableEq

end AnnotatedSql
