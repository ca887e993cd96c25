import AnnotatedSql.Event
import AnnotatedSql.Markup.Parser
import AnnotatedSql.Schema.ColumnType
import AnnotatedSql.Wildcard.TokenSupply

/-!
# Sessions

What passes from one compilation to the next: the parser, the supply of marker
tokens, and the dialogue with the database.  The database is known by its
replies, one for each probe query, and what was asked and reported is kept in
order.
-/

namespace AnnotatedSql

open AnnotatedSql.Schema

/-- A database's reply to a probe query: the columns of its result, or a
message. -/
inductive ProbeReply where
  | columns (descriptors : List ColumnDescriptor)
  | failure (message : Text)

/-- The state between compilations. -/
structure Session where
  parser : Markup.Parser := {}
  supply : Wildcard.TokenSupply
  replies : List ProbeReply := []
  queries : List Text := []
  events : List Event := []

namespace Session

/-- Keeps an event. -/
def report
    (session : Session)
    (event : Event) : Session :=
  { session with events := session.events ++ [event] }

/-- Executes a probe query.  When no replies are left, results have no
columns. -/
def probe
    (session : Session)
    (query : Text) : Except Text (List ColumnDescriptor) × Session :=
  let asked := { session with
    queries := session.queries ++ [query], replies := session.replies.tail }
  match session.replies with
  | [] => (.ok [], asked)
  | .columns descriptors :: _ => (.ok descriptors, asked)
  | .failure message :: _ => (.error message, asked)

end Session

end AnnotatedSql
