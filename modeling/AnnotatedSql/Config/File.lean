import AnnotatedSql.Config.Basic
import AnnotatedSql.Files.Tree
import AnnotatedSql.Json.Reader

/-!
# Settings files

Settings are kept in a JSON file.  A relative directory in it is seen from the
directory of the file.
-/

namespace AnnotatedSql

/-- Why a settings file gives no settings. -/
inductive ConfigFileError where
  | file (error : FileError)
  | json (error : Json.Error)
  | issues (issues : List Issue)

/-- The settings in the file at a path. -/
def Config.ofFile
    (files : FileTree)
    (path : Path) : Except ConfigFileError Config := do
  let text ← (files.readText path).mapError .file
  let value ← (Json.read text).mapError .json
  (Config.ofJson (some path.parent) value).mapError .issues

end AnnotatedSql
