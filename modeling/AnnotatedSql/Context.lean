import AnnotatedSql.Compiler.Files
import AnnotatedSql.Config.Basic
import AnnotatedSql.EngineKind

/-!
# Contexts

A context is what one run works with: a connection to the database that the
settings name, the catalog loaded over it, and the statement directory.  Opening
one connects and loads; if loading fails, the connection is closed again.
Closing twice closes once.
-/

namespace AnnotatedSql

open AnnotatedSql.Schema

/-- A connection: how often it was opened under a name, and how often it was
closed. -/
structure Connection where
  opened : List Text := []
  closed : Nat := 0

/-- Why a context is not opened. -/
inductive OpenError where
  | engine (error : UnsupportedEngine)
  | load (error : LoadError)

/-- What is left of an opening that failed. -/
structure FailedOpening where
  error : OpenError
  connection : Connection
  session : Session

/-- Everything that statements are compiled with in one run. -/
structure Context where
  engine : EngineKind
  compiler : Compiler
  statementDirectory : Option Path
  connected : Bool := true
  connection : Connection
  session : Session

namespace Context

/-- The catalog of a database as far as the settings accept its tables. -/
def loadCatalog
    (config : Config)
    (database : Sqlite.Database) : Except LoadError Catalog × List Event :=
  Catalog.load database.engine config.accepts

/-- Opens a context for settings, given the database that is found behind any
name. -/
def openWith
    (config : Config)
    (database : Sqlite.Database)
    (session : Session) : Except FailedOpening Context :=
  match EngineKind.ofName config.driver with
  | .error error => .error ⟨.engine error, {}, session⟩
  | .ok engine =>
      let connected := session.report (.connecting engine.name config.dsn)
      match loadCatalog config database with
      | (.error error, events) =>
          .error ⟨.load error, { opened := [config.dsn], closed := 1 },
            events.foldl Session.report connected⟩
      | (.ok catalog, events) =>
          .ok {
            engine
            compiler := { catalog, quote := database.engine.quote }
            statementDirectory := config.statementDirectory
            connection := { opened := [config.dsn] }
            session := (events.foldl Session.report connected).report
              (.opened engine.name config.dsn) }

/-- The context behind a compilation. -/
def keep
    {Result : Type}
    (context : Context)
    (outcome : Result × Session) : Result × Context :=
  (outcome.1, { context with session := outcome.2 })

/-- Compiles a file. -/
def compileFile
    (context : Context)
    (files : FileTree)
    (path : Path) : Except FilesError (List Statement) × Context :=
  context.keep (context.compiler.compileFile files path context.session)

/-- Compiles a directory. -/
def compileDirectory
    (context : Context)
    (files : FileTree)
    (path : Path) : Except FilesError (Dictionary (List Statement)) × Context :=
  context.keep (context.compiler.compileDirectory files path context.session)

/-- Compiles the statement directory of the settings; without one, there are no
statements. -/
def compileStatements
    (context : Context)
    (files : FileTree) :
    Except FilesError (Dictionary (List Statement)) × Context :=
  match context.statementDirectory with
  | none => (.ok [], context)
  | some path => context.compileDirectory files path

/-- Closes the connection, if it is open. -/
def close (context : Context) : Context :=
  if context.connected then
    { context with
      connected := false
      connection :=
        { context.connection with closed := context.connection.closed + 1 } }
  else
    context

/-- Compiles a directory and closes the connection, whatever the outcome. -/
def compileAndClose
    (context : Context)
    (files : FileTree)
    (path : Path) : Except FilesError (Dictionary (List Statement)) × Context :=
  let (outcome, context) := context.compileDirectory files path
  (outcome, context.close)

end Context

end AnnotatedSql
