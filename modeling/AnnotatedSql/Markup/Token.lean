import AnnotatedSql.Text.Basic

/-!
# Tokens of the markup language

The words of a document: runs of text, start tags broken into their name,
attributes and end, and close tags.  A token carries the line on which it was
read.
-/

namespace AnnotatedSql.Markup

/-- What a token says.  `text` and `string` hold decoded text, `openTag`,
`closeTag` and `name` hold the name that is written. -/
inductive Symbol where
  | text (value : Text)
  | openTag (name : Text)
  | closeTag (name : Text)
  | name (name : Text)
  | equals
  | string (value : Text)
  | tagEnd
  | selfClose
deriving DecidableEq

/-- What a token shows of itself in a message. -/
def Symbol.value : Symbol → Text
  | .text value => value
  | .openTag word => word
  | .closeTag word => word
  | .name word => word
  | .equals => "="
  | .string value => value
  | .tagEnd => ">"
  | .selfClose => "/>"

/-- A symbol with the line on which it was read. -/
structure Token where
  symbol : Symbol
  line : Nat
deriving DecidableEq

end AnnotatedSql.Markup
