import AnnotatedSql.Text.Basic

/-!
# Supply of marker tokens

Each statement with wildcards draws a token of its own.  A supply is a sequence
of texts, the last of which is repeated for ever, and a token is a text of the
supply behind two fixed letters, so that it begins with a letter whatever digits
are supplied.
-/

namespace AnnotatedSql.Wildcard

/-- The texts that are still to be drawn. -/
structure TokenSupply where
  next : Text
  later : List Text := []

namespace TokenSupply

/-- The letters that every drawn token begins with. -/
def stem : Text := "wc"

/-- Draws a token. -/
def draw (supply : TokenSupply) : Text × TokenSupply :=
  (stem ++ supply.next,
    match supply.later with
    | [] => supply
    | next :: later => ⟨next, later⟩)

end TokenSupply

end AnnotatedSql.Wildcard
