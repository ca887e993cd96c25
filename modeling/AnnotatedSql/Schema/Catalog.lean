import AnnotatedSql.Event
import AnnotatedSql.Schema.Engine
import AnnotatedSql.Schema.Table

/-!
# Catalogs

A catalog holds the tables of a database, or those of them that a filter
accepts, and beside their list the places of their names.  It is loaded once
and then only read: tables are found by position or by name, and foreign keys
are resolved against it when asked for.  Loading stops at the first
inconsistency; whatever was reported until then is kept with the outcome.
-/

namespace AnnotatedSql.Schema

/-- The tables of a database in load order, with the places of their names. -/
structure Catalog where
  tables : List Table := []
  tablePlaces : Dictionary Nat := []

namespace Catalog

/-! ## Finding tables -/

/-- The table of a name. -/
def tableNamed?
    (catalog : Catalog)
    (name : Text) : Option Table :=
  catalog.tablePlaces.itemNamed? catalog.tables name

/-- Some table has the name. -/
def contains
    (catalog : Catalog)
    (name : Text) : Bool :=
  catalog.tablePlaces.contains name

/-- The table of a name, or the fault that there is none. -/
def tableNamed
    (catalog : Catalog)
    (name : Text) : Except TableNotFound Table :=
  match catalog.tableNamed? name with
  | some table => .ok table
  | none => .error ⟨name⟩

/-- The table at a position; a negative position counts from the end. -/
def tableAt?
    (catalog : Catalog)
    (position : Int) : Option Table :=
  match position with
  | .ofNat place => catalog.tables[place]?
  | .negSucc place => catalog.tables.reverse[place]?

/-- The table names in load order. -/
def tableNames (catalog : Catalog) : List Text :=
  catalog.tables.map Table.name

/-! ## Resolving foreign keys -/

/-- The table that a foreign key references is in the catalog. -/
def hasReferencedTable
    (catalog : Catalog)
    (foreignKey : ForeignKey) : Bool :=
  catalog.contains foreignKey.referencedTable

/-- The table that a foreign key of a table references. -/
def referencedTable
    (catalog : Catalog)
    (table : Table)
    (foreignKey : ForeignKey) : Except UnresolvedReference Table :=
  match catalog.tableNamed? foreignKey.referencedTable with
  | some referenced => .ok referenced
  | none =>
      .error
        (.missingTable foreignKey.name table.name foreignKey.referencedTable)

/-- The columns that a foreign key of a table references, with their table,
in the order of the foreign key's own columns. -/
def referencedColumns
    (catalog : Catalog)
    (table : Table)
    (foreignKey : ForeignKey) :
    Except UnresolvedReference (Table × List Column) := do
  let referenced ← catalog.referencedTable table foreignKey
  let columns ← foreignKey.referencedColumns.mapM fun name =>
    match referenced.columnNamed? name with
    | some column => .ok column
    | none =>
        .error
          (.missingColumn foreignKey.name table.name name referenced.name)
  return (referenced, columns)

/-! ## Loading -/

/-- The table of a name with the columns that an engine reports for it. -/
def loadColumns
    (engine : Engine)
    (name : Text) : Except LoadError Table := do
  let descriptors ← (engine.columns name).mapError .engine
  let table ←
    (descriptors.foldlM
      (fun table descriptor => (Table.addColumn descriptor).outcome table)
      ({ name } : Table)).mapError .inconsistent
  if engine.supportsAutoIncrement then
    ((Table.setAutoIncrement (engine.autoIncrementColumn name)).outcome
      table).mapError .inconsistent
  else
    return table

/-- Adds an index under a name, as an engine describes it. -/
def loadIndex
    (engine : Engine)
    (table : Table)
    (index : Text) : Except LoadError Table := do
  let described ← (engine.describeIndex table.name index).mapError .engine
  ((Table.addIndex index described.columns described.isPrimary
    described.isUnique).outcome table).mapError .inconsistent

/-- Adds a foreign key under a name, as an engine describes it. -/
def loadForeignKey
    (engine : Engine)
    (table : Table)
    (foreignKey : Text) : Except LoadError Table := do
  let described ←
    (engine.describeForeignKey table.name foreignKey).mapError .engine
  ((Table.addForeignKey foreignKey described.columns
    described.referencedTable described.referencedColumns).outcome
      table).mapError .inconsistent

/-- Adds the listed indexes and all foreign keys to a table. -/
def loadKeys
    (engine : Engine)
    (indexes : List Text)
    (table : Table) : Except LoadError Table := do
  let indexed ← indexes.foldlM (loadIndex engine) table
  (engine.foreignKeyNames table.name).foldlM (loadForeignKey engine) indexed

/-- A table as an engine reports it, with the events of loading it. -/
def loadTable
    (engine : Engine)
    (name : Text) : Except LoadError Table × List Event :=
  match loadColumns engine name with
  | .error error => (.error error, [])
  | .ok table =>
      let listing := engine.indexes name
      let skipped :=
        listing.overExpressions.map fun index =>
          Event.skippedExpressionIndex index name
      match loadKeys engine listing.names table with
      | .error error => (.error error, skipped)
      | .ok table =>
          (.ok table,
            skipped ++
              [.loadedTable name table.columns.length table.indexes.length
                table.foreignKeys.length])

/-- The catalog with a table behind the others, under its name. -/
def withTable
    (catalog : Catalog)
    (name : Text)
    (table : Table) : Catalog :=
  let tables := catalog.tables ++ [table]
  { tables, tablePlaces := catalog.tablePlaces.put name (tables.length - 1) }

/-- The catalog with the named tables added, as far as a filter accepts
them. -/
def loadTables
    (engine : Engine)
    (accepts : Text → Bool)
    (catalog : Catalog) : List Text → Except LoadError Catalog × List Event
  | [] => (.ok catalog, [.loadedCatalog catalog.tables.length])
  | name :: names =>
      if !accepts name then
        let (outcome, events) := loadTables engine accepts catalog names
        (outcome, .skippedTable name :: events)
      else if catalog.contains name then
        (.error (.inconsistent (.duplicateTable name)), [])
      else
        match loadTable engine name with
        | (.error error, events) => (.error error, events)
        | (.ok table, events) =>
            let (outcome, later) :=
              loadTables engine accepts (catalog.withTable name table) names
            (outcome, events ++ later)

/-- The catalog of the tables that an engine reports and a filter accepts,
with the events of loading it. -/
def load
    (engine : Engine)
    (accepts : Text → Bool) : Except LoadError Catalog × List Event :=
  loadTables engine accepts {} engine.tableNames

end Catalog

end AnnotatedSql.Schema
