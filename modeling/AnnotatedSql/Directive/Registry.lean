import AnnotatedSql.Dictionary
import AnnotatedSql.Directive.Error

/-!
# Directive tags

A registry says which kind of directive a tag stands for.  A tag is registered
once; one kind may have several tags.
-/

namespace AnnotatedSql

/-- The kinds of directives. -/
inductive DirectiveKind where
  | argument
  | binding
  | bindings
  | replacement
  | wildcard
  | text
deriving DecidableEq

/-- A tag that is registered already. -/
structure TagTaken where
  tag : Text

/-- The wording of a tag that is taken. -/
def TagTaken.message (taken : TagTaken) : Text :=
  "Directive <" ++ taken.tag ++ "> is already registered"

/-- Tags with the kinds of directives they stand for, in order of
registration. -/
structure Registry where
  kinds : Dictionary DirectiveKind := []

namespace Registry

/-- The tags in order of registration. -/
def tags (registry : Registry) : List Text :=
  registry.kinds.names

/-- A tag is registered. -/
def contains
    (registry : Registry)
    (tag : Text) : Bool :=
  registry.kinds.contains tag

/-- The kind of directive that a tag stands for. -/
def kind
    (registry : Registry)
    (tag : Text) : Except DirectiveError DirectiveKind :=
  match registry.kinds.get? tag with
  | some kind => .ok kind
  | none => .error (.unknown tag)

/-- Registers tags one by one for a kind of directive.  The tags in front of one
that is taken stay registered. -/
def register
    (registry : Registry)
    (kind : DirectiveKind) : List Text → Except TagTaken Unit × Registry
  | [] => (.ok (), registry)
  | tag :: tags =>
      if registry.contains tag then
        (.error ⟨tag⟩, registry)
      else
        register ⟨registry.kinds ++ [(tag, kind)]⟩ kind tags

/-- The tags of the language. -/
def standard : Registry where
  kinds :=
    [("arg", .argument), ("var", .binding), ("vars", .bindings),
      ("replace", .replacement), ("wildcard", .wildcard)]

end Registry

end AnnotatedSql
