import AnnotatedSql.Sqlite.Engine

/-!
# Engines by name

The engines that settings can choose.
-/

namespace AnnotatedSql

/-- The engines there are. -/
inductive EngineKind where
  | sqlite
deriving DecidableEq

/-- A name that no engine has. -/
structure UnsupportedEngine where
  name : Text

/-- The wording of an engine that is not supported. -/
def UnsupportedEngine.message (error : UnsupportedEngine) : Text :=
  "Unsupported driver '" ++ error.name ++ "'"

namespace EngineKind

/-- Every engine. -/
def all : List EngineKind := [sqlite]

/-- The name of an engine. -/
def name : EngineKind → Text
  | .sqlite => Sqlite.engineName

/-- The engine can tell the auto-increment column of a table. -/
def supportsAutoIncrement : EngineKind → Bool
  | .sqlite => true

/-- The kinds of values that the engine reports columns to have. -/
def dataTypes : EngineKind → List Text
  | .sqlite => Sqlite.dataTypes

/-- The engine of a name. -/
def ofName (name : Text) : Except UnsupportedEngine EngineKind :=
  match all.find? fun kind => kind.name = name with
  | some kind => .ok kind
  | none => .error ⟨name⟩

end EngineKind

end AnnotatedSql
