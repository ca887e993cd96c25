import AnnotatedSql.Text.Basic

/-!
# Verbs

The verb of a SQL statement is what the statement does to the database.  Only a
SELECT statement has result columns.
-/

namespace AnnotatedSql

/-- The kinds of SQL statements. -/
inductive Verb where
  | select
  | insert
  | update
  | delete
deriving DecidableEq

namespace Verb

/-- Every verb. -/
def all : List Verb := [select, insert, update, delete]

/-- A verb as it is written. -/
def name : Verb → Text
  | .select => "SELECT"
  | .insert => "INSERT"
  | .update => "UPDATE"
  | .delete => "DELETE"

/-- The verb of a name in upper case. -/
def ofName? (name : Text) : Option Verb :=
  all.find? fun verb => verb.name = name

end Verb

end AnnotatedSql
