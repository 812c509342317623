/-
# SchemaChange.Proofs.Operation.Bookkeeping — the operations that read, read by read

The migrations table is created after a look at the catalog, which PostgreSQL lets a look
at the version of the server come before.  `Engine.lookUp` is the part that all engines
share, `Engine.afterVersion` how PostgreSQL goes on with the rows of its version, and
`createMigrationsTable_eq` puts the whole together.  What is created can always be
rendered (`createTable_migrationsTable`), so it is one statement (`createUnlisted_nil`).

Likewise `renameByCatalogType_eq` cuts the renaming of a column after its look at the
catalog, behind which `Engine.renameFound` goes on.
-/
import SchemaChange.Proofs.Operation.Statements

set_option autoImplicit false

namespace SchemaChange

open SchemaChange.Statement (Row)

/-- What can be rendered is one statement, after the notes of its rendering. -/
theorem Script.runRendered_of_ok {rendering : Noted String} {statement : String}
    (rendered : rendering.result = .ok statement) :
    runRendered rendering = notes rendering.notes (run statement) := by
  obtain ⟨left, result⟩ := rendering
  cases rendered
  show (notes left (.done (.ok statement))).bind run = _
  rw [notes_bind]
  rfl

namespace Engine

/-- The query that asks a PostgreSQL server for its version. -/
def versionQuery : String :=
  "select version() as version"

/-- Creates the migrations table, if no rows of the catalog list it. -/
def createUnlisted (engine : Engine) (mayExist : Bool) (rows : List Row) : Script Value :=
  if rows.isEmpty then
    Script.runRendered
      (engine.createTable (.text migrationsTable) (migrationsTableOptions mayExist).toValue)
  else .note ⟨.debug, migrationsTable ++ " table already exists"⟩ (pure .null)

/-- Looks into the catalog, and creates the migrations table unless it is there. -/
def lookUp (engine : Engine) (mayExist : Bool) : Script Value :=
  .fetch (.text engine.catalogQuery) (.list [.text migrationsTable])
    (engine.createUnlisted mayExist)

/-- The version that rows report, if there is a row and if it has one. -/
def reportedVersion : List Row → Attempt (Option ServerVersion)
  | [] => .ok none
  | row :: _ => ServerVersion.read (row.getD "version" (.text "")).display.toList

/-- The version that rows report, for the log. -/
def versionNotes (version : Option ServerVersion) : List Row → List Note
  | [] => []
  | _ :: _ => [⟨.debug, "PostgreSQL server version: " ++ ServerVersion.display version⟩]

/-- Whether a server of a version creates tables unless they exist. -/
def versionSupports (version : Option ServerVersion) : Bool :=
  version.any ifNotExistsSince.le

/-- What PostgreSQL does with the rows of its version. -/
def afterVersion (rows : List Row) : Script Value :=
  match reportedVersion rows with
  | .ok version =>
      Script.notes (versionNotes version rows) (lookUp .postgres (versionSupports version))
  | .error failure => .done (.error failure)

/-- **How the migrations table is created.** -/
theorem createMigrationsTable_eq (engine : Engine) :
    engine.createMigrationsTable =
      match engine with
      | .postgres => .fetch (.text versionQuery) .null afterVersion
      | _ => engine.lookUp true := by
  cases engine with
  | mysql => rfl
  | sqlite => rfl
  | postgres =>
      show Script.fetch (.text versionQuery) .null _ = Script.fetch (.text versionQuery) .null _
      congr 1
      funext rows
      cases rows with
      | nil => rfl
      | cons row rest =>
          show (Script.bind (.done (ServerVersion.read
            (row.getD "version" (.text "")).display.toList)) _).bind _ = _
          rw [afterVersion, reportedVersion]
          cases ServerVersion.read (row.getD "version" (.text "")).display.toList with
          | error failure => rfl
          | ok version => cases version <;> rfl

/-- The columns of the migrations table, defined. -/
def migrationsTableColumns : Engine → String
  | .postgres =>
    "\"id\"   SERIAL PRIMARY KEY NOT NULL, \"name\" VARCHAR (255) NOT NULL, "
      ++ "\"run_on\" TIMESTAMP  NOT NULL"
  | .mysql =>
    "id INTEGER  PRIMARY KEY AUTO_INCREMENT NOT NULL, name VARCHAR (255) NOT NULL, "
      ++ "run_on DATETIME  NOT NULL"
  | .sqlite =>
    "\"id\" INTEGER  PRIMARY KEY AUTOINCREMENT NOT NULL, \"name\" VARCHAR (255) NOT NULL, "
      ++ "\"run_on\" DATETIME  NOT NULL"

/-- The statement that creates the migrations table. -/
def migrationsTableStatement (engine : Engine) (mayExist : Bool) : String :=
  "CREATE TABLE " ++ ((if mayExist then "IF NOT EXISTS " else "")
    ++ engine.identifier (.text migrationsTable) ++ " (" ++ engine.migrationsTableColumns ++ ")")

/-- The migrations table can be rendered for every engine. -/
theorem createTable_migrationsTable (engine : Engine) (mayExist : Bool) :
    (engine.createTable (.text migrationsTable) (migrationsTableOptions mayExist).toValue).result
      = .ok (engine.migrationsTableStatement mayExist) := by
  cases engine <;> cases mayExist <;> rfl

/-- What the catalog does not list is created by one statement, whatever is noted before. -/
theorem createUnlisted_nil (engine : Engine) (mayExist : Bool) :
    ∃ notes, engine.createUnlisted mayExist []
      = Script.notes notes (Script.run (engine.migrationsTableStatement mayExist)) :=
  ⟨_, Script.runRendered_of_ok (engine.createTable_migrationsTable mayExist)⟩

/-! ## The renaming of a column by its type -/

/-- The type that a row of the catalog gives. -/
def foundType (row : Row) : Value :=
  row.getD "COLUMN_TYPE" (row.getD "column_type" .null)

/-- Renames a column by the rows that the catalog has of it. -/
def renameFound (engine : Engine) (table column newColumn : Value) : List Row → Script Value
  | [] => .askDryRun fun dry =>
      if dry then
        .note ⟨.info, "dry run: skipping rename of " ++ table.display ++ "." ++ column.display⟩
          (pure .null)
      else .done (.error (engine.columnNotFound table column))
  | row :: _ => Script.run (engine.renameColumnOfType table column newColumn (foundType row))

/-- **How a column is renamed by its type.** -/
theorem renameByCatalogType_eq (engine : Engine) (table column newColumn : Value) :
    engine.renameByCatalogType table column newColumn =
      .fetch (.text columnTypeQuery) (.list [table, column])
        (engine.renameFound table column newColumn) :=
  rfl

/-! ## The recorded migrations -/

/-- The statement that records a migration. -/
def recordTemplate : String :=
  "INSERT INTO [" ++ migrationsTable ++ "] (name, run_on) VALUES (?, ?)"

/-- The query for the recorded migrations. -/
def recordsQuery : String :=
  "SELECT * FROM [" ++ migrationsTable ++ "] ORDER BY run_on DESC, name DESC"

/-- The records of rows, as values. -/
def readRecords (rows : List Row) : Attempt Value :=
  (rows.mapM fun row => MigrationRecord.ofRow (.map row)).map fun records =>
    .list (records.map MigrationRecord.toValue)

theorem loadedMigrations_eq :
    loadedMigrations = .fetch (.text recordsQuery) .null fun rows => .done (readRecords rows) := by
  show Script.fetch (.text recordsQuery) .null _ = _
  congr 1
  funext rows
  show Script.bind (.done (rows.mapM fun row => MigrationRecord.ofRow (.map row))) _ = _
  rw [readRecords]
  cases rows.mapM fun row => MigrationRecord.ofRow (.map row) <;> rfl

end Engine

end SchemaChange
