/-
# SchemaChange.Operation.Script — the script of every operation

A schema change renders its statements and submits them one after the other; the
answer is that of the last.  Some operations read before they write: the migrations
table is created unless the catalog lists it, and MySQL renames a column by the type
that the catalog gives.

`runAll_cons` gives a plan its order.  The script of a change starts with the whole of
its rendering, so nothing is submitted for arguments that cannot be rendered.
-/
import SchemaChange.MigrationRecord
import SchemaChange.Operation.Rendering
import SchemaChange.Script
import SchemaChange.ServerVersion
import SchemaChange.Timestamp

set_option autoImplicit false

namespace SchemaChange

/-- The name of the table in which migrations are recorded. -/
def migrationsTable : String := "migrations"

namespace Script

/-- Submits statements one after the other and answers what the last one gives. -/
def runAll : List String → Script Value
  | [] => pure .null
  | [statement] => run statement
  | statement :: rest => .submit (.text statement) .null fun _ => runAll rest

theorem runAll_cons (statement next : String) (rest : List String) :
    runAll (statement :: next :: rest)
      = .submit (.text statement) .null fun _ => runAll (next :: rest) := rfl

/-- Renders a statement and submits it. -/
def runRendered (rendering : Noted String) : Script Value := do
  let statement ← rendering
  run statement

/-- Renders a statement and submits it. -/
def runAttempt (rendering : Attempt String) : Script Value :=
  runRendered (Noted.ofAttempt rendering)

end Script

/-- The description of the table in which migrations are recorded. -/
def migrationsTableOptions (ifNotExists : Bool) : Table where
  columns :=
    [(.text "id", { ColumnSpec.ofType (.kind .integer) with
        notNull := .bool true, primaryKey := .bool true, autoIncrement := .bool true }),
     (.text "name", { ColumnSpec.ofType (.kind .string) with
        length := .int 255, notNull := .bool true }),
     (.text "run_on", { ColumnSpec.ofType (.kind .dateTime) with notNull := .bool true })]
  ifNotExists := .bool ifNotExists

namespace Engine

/-- The query that looks for a table in the catalog. -/
def catalogQuery : Engine → String
  | .postgres =>
    "SELECT table_name FROM information_schema.tables WHERE table_schema = 'public' "
      ++ "AND table_name = ?"
  | .mysql =>
    "SELECT table_name FROM information_schema.tables WHERE table_schema = DATABASE() "
      ++ "AND table_name = ?"
  | .sqlite => "SELECT name FROM sqlite_master WHERE type = 'table' AND name = ?"

/-- The query that reads the type of a column from the catalog. -/
def columnTypeQuery : String :=
  "SELECT COLUMN_TYPE FROM INFORMATION_SCHEMA.COLUMNS WHERE TABLE_SCHEMA = DATABASE() "
    ++ "AND TABLE_NAME = ? AND COLUMN_NAME = ?"

/-- The first version of a PostgreSQL server that creates tables unless they exist. -/
def ifNotExistsSince : ServerVersion := ⟨9, 1, 0⟩

/-- Whether a PostgreSQL server creates tables unless they exist. -/
def supportsIfNotExists : Script Bool := do
  let rows ← Script.query "select version() as version"
  match rows with
  | [] => pure false
  | row :: _ => do
    let version ← ServerVersion.read (row.getD "version" (.text "")).display.toList
    Script.debug ("PostgreSQL server version: " ++ ServerVersion.display version)
    match version with
    | some v => pure (ifNotExistsSince.le v)
    | none => pure false

/-- Whether the migrations table may be created although it exists. -/
def migrationsTableMayExist : Engine → Script Bool
  | .postgres => supportsIfNotExists
  | _ => pure true

/-- Creates the migrations table unless the catalog lists it. -/
def createMigrationsTable (engine : Engine) : Script Value := do
  let mayExist ← engine.migrationsTableMayExist
  let rows ← Script.queryWith engine.catalogQuery [.text migrationsTable]
  if rows.isEmpty then
    Script.runRendered
      (engine.createTable (.text migrationsTable) (migrationsTableOptions mayExist).toValue)
  else
    Script.debug (migrationsTable ++ " table already exists")
    pure .null

/-- What is reported for a column that the catalog does not list. -/
def columnNotFound (engine : Engine) (table column : Value) : Failure :=
  engine.refusal ("Column " ++ column.display ++ " not found in table " ++ table.display)

/-- Renames a column by the type that the catalog gives. -/
def renameByCatalogType (engine : Engine) (table column newColumn : Value) : Script Value := do
  let rows ← Script.queryWith columnTypeQuery [table, column]
  match rows with
  | [] => do
    if ← Script.isDryRun then
      Script.note ⟨.info, "dry run: skipping rename of " ++ table.display ++ "." ++ column.display⟩
        (pure .null)
    else .done (.error (engine.columnNotFound table column))
  | row :: _ =>
    Script.run (engine.renameColumnOfType table column newColumn
      (row.getD "COLUMN_TYPE" (row.getD "column_type" .null)))

/-- Records a migration as run at a time. -/
def addMigrationRecord (name : Value) (now : Timestamp) : Script Value :=
  Script.runWith ("INSERT INTO [" ++ migrationsTable ++ "] (name, run_on) VALUES (?, ?)")
    [name, .text now.text]

/-- The recorded migrations, as their rows come. -/
def loadedMigrations : Script Value := do
  let rows ← Script.query
    ("SELECT * FROM [" ++ migrationsTable ++ "] ORDER BY run_on DESC, name DESC")
  let records ← (rows.mapM fun row => MigrationRecord.ofRow (.map row) : Attempt _)
  pure (.list (records.map MigrationRecord.toValue))

/-- A statement that delimits a migration, where the engine has transactions for them. -/
def delimit (engine : Engine) (statement : String) : Script Value :=
  match engine with
  | .postgres => Script.run statement
  | _ => pure .null

end Engine

/-- The script of an operation for an engine, at a time. -/
def Operation.script (engine : Engine) (now : Timestamp) : Operation → Script Value
  | .createTable table options => Script.runRendered (engine.createTable table options)
  | .dropTable table ifExists => Script.run (engine.dropTable table ifExists)
  | .renameTable table newTable => Script.run (engine.renameTable table newTable)
  | .addColumn table column spec => Script.runRendered (engine.addColumn table column spec)
  | .removeColumn table column => Script.run (engine.removeColumn table column)
  | .renameColumn table column newColumn =>
    match engine with
    | .mysql => engine.renameByCatalogType table column newColumn
    | _ => Script.run (engine.renameColumn table column newColumn)
  | .changeColumn table column spec => do
    let plan ← engine.changeColumn table column spec
    Script.runAll plan
  | .addIndex table index columns unique =>
    Script.runAttempt (engine.addIndex table index columns unique)
  | .removeIndex index table => Script.runAttempt (engine.removeIndex index table)
  | .addForeignKey table key columns parent parentColumns actions =>
    Script.runAttempt (engine.addForeignKey table key columns parent parentColumns actions)
  | .removeForeignKey table key => Script.runAttempt (engine.removeForeignKey table key)
  | .insert table columns values => Script.runAttempt (engine.insert table columns values)
  | .createMigrationsTable => engine.createMigrationsTable
  | .addMigrationRecord name => Engine.addMigrationRecord name now
  | .loadedMigrations => Engine.loadedMigrations
  | .run template params => .submit template params pure
  | .query template params => .fetch template params fun rows => pure (Statement.rowsValue rows)
  | .startMigration => engine.delimit "BEGIN;"
  | .endMigration => engine.delimit "COMMIT;"
  | .quote identifier => pure (engine.dialect.quote identifier)

end SchemaChange
