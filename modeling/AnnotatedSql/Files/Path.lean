import AnnotatedSql.Text.Basic

/-!
# Paths

A path is absolute or relative, and has parts.  Empty parts and parts that are a
single dot say nothing and are left out; two dots stay.  A path that begins with
exactly two slashes keeps both.
-/

namespace AnnotatedSql

/-- Where a path starts from. -/
inductive PathRoot where
  | relative
  | slash
  | doubleSlash
deriving DecidableEq

/-- The slashes of a root. -/
def PathRoot.text : PathRoot → Text
  | relative => []
  | slash => "/"
  | doubleSlash => "//"

/-- A path in normal form. -/
structure Path where
  root : PathRoot := .relative
  parts : List Text := []
deriving DecidableEq

namespace Path

/-- The text between the slashes, before the first and after the last as
well. -/
def components : Text → List Text
  | [] => [[]]
  | first :: text =>
      if first = '/' then
        [] :: components text
      else
        match components text with
        | [] => [[first]]
        | component :: components => (first :: component) :: components

/-- The root of a path with so many leading slashes. -/
def rootOfSlashes : Nat → PathRoot
  | 0 => .relative
  | 2 => .doubleSlash
  | _ => .slash

/-- The path that a text spells. -/
def ofText (text : Text) : Path where
  root := rootOfSlashes (text.takeWhile (· = CodePoint.scalar '/')).length
  parts := (components text).filter fun part => !part.isEmpty && part != "."

/-- The text of a path; the path without parts is a dot. -/
def text (path : Path) : Text :=
  match path.root, path.parts with
  | .relative, [] => "."
  | root, parts => root.text ++ List.intercalate "/" parts

/-- The path is not to be joined to another. -/
def isAbsolute (path : Path) : Bool :=
  path.root != .relative

/-- A path as seen from a base; an absolute path is the same from everywhere. -/
def relativeTo (base path : Path) : Path :=
  if path.isAbsolute then path
  else { base with parts := base.parts ++ path.parts }

/-- The entry of a name inside a path. -/
def entry
    (path : Path)
    (name : Text) : Path :=
  { path with parts := path.parts ++ [name] }

/-- The directory that a path's last part is in. -/
def parent (path : Path) : Path :=
  { path with parts := path.parts.dropLast }

/-- The text up to the last dot, if there is a dot, and the text behind it. -/
def cutAtLastDot? (name : Text) : Option (Text × Text) :=
  let extension := name.reverse.takeWhile (· != CodePoint.scalar '.')
  if extension.length < name.length then
    some (name.take (name.length - extension.length - 1), extension.reverse)
  else
    none

/-- A file name without its last extension.  A dot at the start or the end of a
name begins no extension. -/
def stem (name : Text) : Text :=
  match cutAtLastDot? name with
  | some (before, extension) =>
      if before.isEmpty || extension.isEmpty then name else before
  | none => name

end Path

end AnnotatedSql
