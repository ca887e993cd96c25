import AnnotatedSql.Files.Path
import AnnotatedSql.Text.Quoted

/-!
# File trees

A directory with everything in it.  A path, absolute or relative, is followed
from the directory at the root of the tree to a location: the names that lead
there, without two dots among them.  Every part of a path but the last has to
lead to a directory, also where two dots lead out of it again.
-/

namespace AnnotatedSql

/-- A file with its bytes, or a directory with its named entries. -/
inductive FileTree where
  | file (bytes : ByteArray)
  | directory (entries : List (Text × FileTree))
deriving Inhabited

/-- Why a path does not serve for reading or writing. -/
inductive FileError where
  | notFound
  | isDirectory
  | throughFile (path : Path)
  | occupied (path : Path)
  | nullInPath
  | notUtf8

/-- The wording of a fault that has more to say than its kind. -/
def FileError.message : FileError → Text
  | throughFile path => "[Errno 20] Not a directory: " ++ path.text.quoted
  | occupied path => "[Errno 17] File exists: " ++ path.text.quoted
  | nullInPath => "embedded null byte"
  | notFound | isDirectory | notUtf8 => []

namespace FileTree

/-- The entries of a directory; a file has none. -/
def entries : FileTree → List (Text × FileTree)
  | file _ => []
  | directory entries => entries

/-! ## Locations -/

/-- What stands at a location. -/
def at? (tree : FileTree) : List Text → Option FileTree
  | [] => some tree
  | name :: names =>
      (tree.entries.lookup name).bind fun entry => entry.at? names

/-- Replaces the entry of a name, or adds it. -/
def putEntry
    (name : Text)
    (tree : FileTree) : List (Text × FileTree) → List (Text × FileTree)
  | [] => [(name, tree)]
  | (name', tree') :: entries =>
      if name = name' then (name, tree) :: entries
      else (name', tree') :: putEntry name tree entries

/-- Puts a tree at a location. -/
def put (tree root : FileTree) : List Text → FileTree
  | [] => tree
  | name :: names =>
      let entry := (root.entries.lookup name).getD (directory [])
      directory (putEntry name (put tree entry names) root.entries)

/-! ## Following paths -/

/-- No part of a path may hold the null character. -/
def checkParts (path : Path) : Except FileError Unit :=
  if path.parts.any fun part => part.contains (CodePoint.scalar '\x00') then
    .error .nullInPath
  else .ok ()

/-- The entries of the directory at a location on a path. -/
def entriesAt
    (root : FileTree)
    (path : Path)
    (location : List Text) : Except FileError (List (Text × FileTree)) :=
  match root.at? location with
  | some (directory entries) => .ok entries
  | some (file _) => .error (.throughFile path)
  | none => .error .notFound

/-- Where parts of a path lead from a location.  The root of the tree is the
directory above itself. -/
def follow
    (root : FileTree)
    (path : Path)
    (location : List Text) : List Text → Except FileError (List Text)
  | [] => .ok location
  | part :: parts => do
    let entries ← root.entriesAt path location
    if part = ".." then
      follow root path location.dropLast parts
    else
      match entries.lookup part with
      | some _ => follow root path (location ++ [part]) parts
      | none => .error .notFound

/-- What stands at a path. -/
def get
    (root : FileTree)
    (path : Path) : Except FileError FileTree := do
  checkParts path
  let location ← root.follow path [] path.parts
  match root.at? location with
  | some tree => return tree
  | none => .error .notFound

/-! ## Reading -/

/-- The text with every line ending written as a line feed. -/
def unifyLineEndings : Text → Text
  | [] => []
  | .scalar '\r' :: .scalar '\n' :: text =>
      .scalar '\n' :: unifyLineEndings text
  | .scalar '\r' :: text => .scalar '\n' :: unifyLineEndings text
  | point :: text => point :: unifyLineEndings text

/-- The text of the file at a path. -/
def readText
    (root : FileTree)
    (path : Path) : Except FileError Text := do
  match ← root.get path with
  | directory _ => .error .isDirectory
  | file bytes =>
      match String.fromUTF8? bytes with
      | some string => return unifyLineEndings (Text.ofString string)
      | none => .error .notUtf8

/-! ## Writing -/

/-- Writes a file into a directory that is there already, over a file of the
same name if there is one. -/
def write
    (root : FileTree)
    (path : Path)
    (bytes : ByteArray) : Except FileError FileTree := do
  checkParts path
  let location ← root.follow path [] path.parent.parts
  let entries ← root.entriesAt path location
  match path.parts.getLast? with
  | none => .error .isDirectory
  | some name =>
      if name = ".." then
        .error .isDirectory
      else
        match entries.lookup name with
        | some (directory _) => .error .isDirectory
        | some (file _) | none =>
            return put (file bytes) root (location ++ [name])

/-- The tree with a directory at every place that parts of a path lead over, and
where they lead from a location. -/
def makeParts
    (root : FileTree)
    (path : Path)
    (location : List Text) : List Text → Except FileError (FileTree × List Text)
  | [] => .ok (root, location)
  | part :: parts => do
    let entries ← root.entriesAt path location
    if part = ".." then
      makeParts root path location.dropLast parts
    else
      let inside := location ++ [part]
      match entries.lookup part with
      | some _ => makeParts root path inside parts
      | none => makeParts (put (directory []) root inside) path inside parts

/-- Makes a directory, unless there is one, and with it the directories on the
way there. -/
def makeDirectory
    (root : FileTree)
    (path : Path) : Except FileError FileTree := do
  checkParts path
  let (made, location) ← root.makeParts path [] path.parts
  match made.at? location with
  | some (directory _) => return made
  | some (file _) | none => .error (.occupied path)

end FileTree

end AnnotatedSql
