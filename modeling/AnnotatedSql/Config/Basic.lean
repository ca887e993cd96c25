import AnnotatedSql.Config.Issue
import AnnotatedSql.Files.Path
import AnnotatedSql.Json.Value
import AnnotatedSql.Text.Pattern

/-!
# Settings of a run

Which database is read, which of its tables, and where the statement files are.
Settings are read from a JSON object.  Values are taken as they are, without
conversion, except that one pattern may stand for a list of one; every issue is
reported, those of known keys first.
-/

namespace AnnotatedSql

/-- The settings of a run.  No included pattern means every table; excluded
patterns come on top.
-/
structure Config where
  dsn : Text
  driver : Text := "sqlite"
  included : List Text := []
  excluded : List Text := []
  statementDirectory : Option Path := none

namespace Config

/-- The keys that settings may have. -/
def keys : List Text :=
  ["dsn", "driver", "include_tables", "exclude_tables", "statement_dir"]

/-- A table is to be loaded. -/
def accepts
    (config : Config)
    (table : Text) : Bool :=
  (config.included.isEmpty ||
      config.included.any (Text.Pattern.accepts · table)) &&
    !config.excluded.any (Text.Pattern.accepts · table)

/-! ## Reading single settings -/

/-- The name of the database, which must not be empty. -/
def readDsn : Option Json → Except (List Issue) Text
  | none => .error [⟨.missing, .key "dsn"⟩]
  | some (.string value) =>
      if value.any fun point => point matches .surrogate _ then
        .error [⟨.notUnicode, .key "dsn"⟩]
      else if value.isEmpty then .error [⟨.tooShort, .key "dsn"⟩]
      else .ok value
  | some _ => .error [⟨.notString, .key "dsn"⟩]

/-- The name of the engine. -/
def readDriver : Option Json → Except (List Issue) Text
  | none => .ok "sqlite"
  | some (.string value) => .ok value
  | some _ => .error [⟨.notString, .key "driver"⟩]

/-- The issues of the items of a list of patterns, from an index on. -/
def itemIssues
    (key : Text)
    (index : Nat) : List Json → List Issue
  | [] => []
  | .string _ :: items => itemIssues key (index + 1) items
  | _ :: items =>
      ⟨.notString, .item key index⟩ :: itemIssues key (index + 1) items

/-- A list of patterns, or a single one. -/
def readPatterns (key : Text) : Option Json → Except (List Issue) (List Text)
  | none => .ok []
  | some (.string pattern) => .ok [pattern]
  | some (.array items) =>
      match itemIssues key 0 items with
      | [] => .ok (items.filterMap Json.string?)
      | issues => .error issues
  | some _ => .error [⟨.notList, .key key⟩]

/-- The directory of statement files as seen from a base. -/
def readDirectory (base : Option Path) :
    Option Json → Except (List Issue) (Option Path)
  | none | some .null => .ok none
  | some (.string value) =>
      let path := Path.ofText value
      .ok (some (match base with
        | none => path
        | some base => base.relativeTo path))
  | some _ => .error [⟨.notPath, .key "statement_dir"⟩]

/-! ## Reading all settings -/

/-- The issues of a setting that was read. -/
def issuesOf {Value : Type} : Except (List Issue) Value → List Issue
  | .ok _ => []
  | .error issues => issues

/-- The issues of the keys that are not known, in their order. -/
def keyIssues (entries : Dictionary Json) : List Issue :=
  (entries.names.filter fun name => !keys.contains name).map fun name =>
    ⟨.unknownKey, .key name⟩

/-- A key holds a surrogate without a partner. -/
def hasBrokenKey (entries : Dictionary Json) : Bool :=
  entries.names.any fun name => name.any fun point => point matches .surrogate _

/-- The settings of an object. -/
def ofEntries
    (base : Option Path)
    (entries : Dictionary Json) : Except (List Issue) Config :=
  let dsn := readDsn (entries.get? "dsn")
  let driver := readDriver (entries.get? "driver")
  let included := readPatterns "include_tables" (entries.get? "include_tables")
  let excluded := readPatterns "exclude_tables" (entries.get? "exclude_tables")
  let directory := readDirectory base (entries.get? "statement_dir")
  if hasBrokenKey entries then
    .error [⟨.notUnicode, .settings⟩]
  else
    match dsn, driver, included, excluded, directory, keyIssues entries with
    | .ok dsn, .ok driver, .ok included, .ok excluded,
        .ok statementDirectory, [] =>
      .ok { dsn, driver, included, excluded, statementDirectory }
    | _, _, _, _, _, unknown =>
        .error
          (issuesOf dsn ++ issuesOf driver ++ issuesOf included ++
            issuesOf excluded ++ issuesOf directory ++ unknown)

/-- The settings of a JSON value, with relative directories as seen from a
base. -/
def ofJson (base : Option Path) : Json → Except (List Issue) Config
  | .object entries => ofEntries base entries
  | _ => .error [⟨.notObject, .settings⟩]

end Config

end AnnotatedSql
