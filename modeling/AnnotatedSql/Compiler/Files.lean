import AnnotatedSql.Compiler.Statement
import AnnotatedSql.Files.Tree

/-!
# Compiling files

A statement file is compiled like any document.  A directory of statement files
is compiled file by file in the order of their names, and the statements are
filed under the names without extension.
-/

namespace AnnotatedSql

/-- Why files are not compiled. -/
inductive FilesError where
  | file (error : FileError)
  | noDirectory (path : Path)
  | document (error : DocumentError)

namespace Compiler

variable (compiler : Compiler)

/-- Compiles the file at a path. -/
def compileFile
    (files : FileTree)
    (path : Path)
    (session : Session) : Except FilesError (List Statement) × Session :=
  match files.readText path with
  | .error error => (.error (.file error), session)
  | .ok document =>
      match compiler.compileDocument document session with
      | (.error error, session) => (.error (.document error), session)
      | (.ok statements, session) =>
          (.ok statements,
            session.report (.compiledFile statements.length path.text))

/-- Compiles the named entries of a directory in turn.  Of two names without
extension that are the same, the first keeps its place and the second brings its
statements. -/
def compileEntries
    (files : FileTree)
    (path : Path)
    (compiled : Dictionary (List Statement))
    (session : Session) :
    List Text → Except FilesError (Dictionary (List Statement)) × Session
  | [] => (.ok compiled, session)
  | name :: names =>
      match compiler.compileFile files (path.entry name) session with
      | (.error error, session) => (.error error, session)
      | (.ok statements, session) =>
          compileEntries files path (compiled.put (Path.stem name) statements)
            session names

/-- The names of statement files among the entries of a directory, in order. -/
def statementFileNames (entries : List (Text × FileTree)) : List Text :=
  ((entries.map Prod.fst).filter fun name =>
    (Text.after? (Text.ofString ".xml").reverse name.reverse).isSome).mergeSort
      Text.lexLe

/-- Compiles the statement files of a directory. -/
def compileDirectory
    (files : FileTree)
    (path : Path)
    (session : Session) :
    Except FilesError (Dictionary (List Statement)) × Session :=
  match files.get path with
  | .ok (.directory entries) =>
      compiler.compileEntries files path [] session (statementFileNames entries)
  | _ => (.error (.noDirectory path), session)

end Compiler

end AnnotatedSql
