/-
# SchemaChange.Operation.Rendering — the statements of schema changes

The statement of each schema change in the grammar of each engine.  All that can go
wrong with the arguments of a change goes wrong here, before anything is submitted.
A change has one statement, except that PostgreSQL changes a column by a plan of
two or three (`changePlan`).
-/
import SchemaChange.Dialect.Configured
import SchemaChange.ForeignKey
import SchemaChange.Operation.Basic
import SchemaChange.Table

set_option autoImplicit false

namespace SchemaChange.Engine

/-- An identifier inside a statement. -/
def identifier (engine : Engine) (name : Value) : String :=
  (engine.dialect.quote name).display

/-- Identifiers in a list inside a statement. -/
def identifiers (engine : Engine) (names : List Value) : Attempt String :=
  engine.dialect.quoteAll ", " names

/-- A statement that changes a table, up to the change. -/
def alterTable (engine : Engine) (table : Value) : String :=
  "ALTER TABLE " ++ engine.identifier table

/-- Why an engine cannot make a change. -/
def refusal (engine : Engine) (message : String) : Failure :=
  .report (.engine message engine.name)

/-- What is reported for a column description that cannot be read. -/
def invalidColumn (spec : Value) (failure : Failure) : Failure :=
  .report (.validation ("Invalid column specification: " ++ failure.message) .null spec)

/-- Reads the description of a column for a change. -/
def readColumn (spec : Value) : Noted ColumnSpec :=
  (ColumnSpec.ofValue spec).explaining (invalidColumn spec)

/-- What is reported for a table description that cannot be read. -/
def invalidTable (table : Value) (failure : Failure) : Failure :=
  .report (.validation ("Invalid table definition for " ++ table.display ++ ": " ++ failure.message)
    (.text "options") .null)

/-- Reads the description of a table for a change. -/
def readTable (table options : Value) : Noted Table :=
  (Table.ofValue options).explaining (invalidTable table)

/-- The definitions of columns, in order. -/
def columnDefinitions (engine : Engine) (emitPrimaryKey : Bool) :
    List (Value × ColumnSpec) → Noted (List String)
  | [] => pure []
  | (name, spec) :: rest => do
    let definition ← engine.dialect.columnDefinition name spec emitPrimaryKey
    let others ← columnDefinitions engine emitPrimaryKey rest
    pure (definition :: others)

/-- The clause for a primary key of several columns. -/
def primaryKeyClause (engine : Engine) (columns : List Value) : Attempt String :=
  if columns.length ≤ 1 then .ok ""
  else do
    let names ← engine.identifiers columns
    .ok (", PRIMARY KEY (" ++ names ++ ")")

/-- The statement that creates a table that has been read. -/
def createTableStatement (engine : Engine) (name : Value) (table : Table) : Noted String := do
  let primaryKey := table.primaryKey
  let definitions ← engine.columnDefinitions (primaryKey.length ≤ 1) table.columns
  let clause ← engine.primaryKeyClause primaryKey
  let ifNotExists := if table.ifNotExists.truthy then "IF NOT EXISTS " else ""
  pure ("CREATE TABLE " ++ ifNotExists ++ engine.identifier name ++ " ("
    ++ commaSeparated definitions ++ clause ++ ")")

/-- The statement that creates a table. -/
def createTable (engine : Engine) (name options : Value) : Noted String := do
  Noted.note .debug ("creating table: " ++ name.display)
  let table ← readTable name options
  engine.createTableStatement name table

/-- The statement that drops a table. -/
def dropTable (engine : Engine) (table ifExists : Value) : String :=
  "DROP TABLE " ++ (if ifExists.truthy then "IF EXISTS " else "") ++ engine.identifier table

/-- The statement that renames a table. -/
def renameTable (engine : Engine) (table newTable : Value) : String :=
  match engine with
  | .mysql => "RENAME TABLE " ++ engine.identifier table ++ " TO " ++ engine.identifier newTable
  | _ => engine.alterTable table ++ " RENAME TO " ++ engine.identifier newTable

/-- The statement that adds a column. -/
def addColumn (engine : Engine) (table column spec : Value) : Noted String := do
  Noted.note .debug ("adding column: " ++ table.display ++ "." ++ column.display)
  let spec ← readColumn spec
  let definition ← engine.dialect.columnDefinition column spec true
  pure (engine.alterTable table ++ " ADD COLUMN " ++ definition)

/-- The statement that removes a column. -/
def removeColumn (engine : Engine) (table column : Value) : String :=
  engine.alterTable table ++ " DROP COLUMN " ++ engine.identifier column

/-- The statement that renames a column where the grammar has one. -/
def renameColumn (engine : Engine) (table column newColumn : Value) : String :=
  engine.alterTable table ++ " RENAME COLUMN " ++ engine.identifier column ++ " TO "
    ++ engine.identifier newColumn

/-- The statement that renames a column by repeating its type. -/
def renameColumnOfType (engine : Engine) (table column newColumn type : Value) : String :=
  engine.alterTable table ++ " CHANGE " ++ engine.identifier column ++ " "
    ++ engine.identifier newColumn ++ " " ++ type.display

/-- The name of the constraint that keeps a column unique. -/
def uniqueConstraint (table column : Value) : String :=
  table.display ++ "_" ++ column.display ++ "_unique"

/-- The change to the uniqueness of a column, which is left alone unless it is exactly true or
false. -/
def uniquenessChange (engine : Engine) (table column unique : Value) : List String :=
  match unique with
  | .bool true =>
    [engine.alterTable table ++ " ADD CONSTRAINT " ++ uniqueConstraint table column ++ " UNIQUE ("
      ++ engine.identifier column ++ ")"]
  | .bool false =>
    [engine.alterTable table ++ " DROP CONSTRAINT " ++ uniqueConstraint table column]
  | _ => []

/-- The statements that change nullability, uniqueness and default of a column, in this order. -/
def changePlan (engine : Engine) (table column : Value) (spec : ColumnSpec) : List String :=
  let alterColumn := engine.alterTable table ++ " ALTER COLUMN " ++ engine.identifier column
  [alterColumn ++ (if spec.notNull.truthy then " SET NOT NULL" else " DROP NOT NULL")]
    ++ engine.uniquenessChange table column spec.unique
    ++ [if spec.defaultValue.isNull then alterColumn ++ " DROP DEFAULT"
        else alterColumn ++ " SET DEFAULT " ++ spec.defaultValue.sqlDefault]

/-- The statement that gives a column a new definition. -/
def redefineColumn (engine : Engine) (table column : Value) (spec : ColumnSpec) : Noted String := do
  let definition ← engine.dialect.columnDefinition column spec false
  pure (engine.alterTable table ++ " CHANGE COLUMN " ++ engine.identifier column ++ " " ++ definition)

/-- The statements that change a column. -/
def changeColumn (engine : Engine) (table column spec : Value) : Noted (List String) :=
  match engine with
  | .sqlite =>
    Noted.ofAttempt (.error (engine.refusal
      ("SQLite cannot change column " ++ table.display ++ "." ++ column.display)))
  | .postgres => do
    let spec ← readColumn spec
    pure (engine.changePlan table column spec)
  | .mysql => do
    let spec ← readColumn spec
    let statement ← engine.redefineColumn table column spec
    pure [statement]

/-- The statement that creates an index. -/
def addIndex (engine : Engine) (table index columns unique : Value) : Attempt String := do
  let names ← engine.identifiers (← columns.asList)
  .ok ("CREATE " ++ (if unique.truthy then "UNIQUE " else "") ++ "INDEX " ++ index.display ++ " ON "
    ++ engine.identifier table ++ " (" ++ names ++ ")")

/-- The statement that drops an index; MySQL needs the name of its table. -/
def removeIndex (engine : Engine) (index table : Value) : Attempt String :=
  match engine with
  | .mysql =>
    if table.truthy && index.truthy then
      .ok ("DROP INDEX " ++ index.display ++ " ON " ++ engine.identifier table)
    else
      .report (.validation "Illegal arguments, must provide \"table_name\" and \"index_name\""
        (.text "table_name") .null)
  | _ => .ok ("DROP INDEX " ++ index.display)

/-- The clause for an action of a foreign key; nothing if none is given. -/
def actionClause (keyword : String) (action : Value) : Attempt String :=
  if action.truthy then do
    let text ← action.asText
    .ok (keyword ++ String.ofList (Text.upper text.toList))
  else .ok ""

/-- The statement that adds a foreign key. -/
def addForeignKey (engine : Engine) (table key columns parent parentColumns actions : Value) :
    Attempt String :=
  match engine with
  | .sqlite =>
    .error (engine.refusal
      ("SQLite cannot add foreign key " ++ key.display ++ " to an existing table"))
  | _ => do
    let actions ← ForeignKeyActions.ofValue actions
    let onUpdate ← actionClause " ON UPDATE " actions.onUpdate
    let onDelete ← actionClause " ON DELETE " actions.onDelete
    let names ← engine.identifiers (← columns.asList)
    let parentNames ← engine.identifiers (← parentColumns.asList)
    .ok (engine.alterTable table ++ " ADD CONSTRAINT " ++ key.display ++ " FOREIGN KEY(" ++ names
      ++ ") REFERENCES " ++ engine.identifier parent ++ "(" ++ parentNames ++ ")" ++ onUpdate
      ++ onDelete)

/-- The statement that removes a foreign key. -/
def removeForeignKey (engine : Engine) (table key : Value) : Attempt String :=
  match engine with
  | .sqlite =>
    .error (engine.refusal
      ("SQLite cannot drop foreign key " ++ key.display ++ " from an existing table"))
  | .mysql => .ok (engine.alterTable table ++ " DROP FOREIGN KEY " ++ key.display)
  | .postgres => .ok (engine.alterTable table ++ " DROP CONSTRAINT " ++ key.display)

/-- Values inlined into a statement, with commas between them. -/
def literals (values : List Value) : String :=
  String.intercalate "," (values.map Value.sqlLiteral)

/-- The statement that inserts a row; there are as many values as columns. -/
def insert (engine : Engine) (table columns values : Value) : Attempt String := do
  let columnCount ← columns.size
  let valueCount ← values.size
  if columnCount ≠ valueCount then
    .report (.validation "The number of columns does not match the number of values."
      (.text "values") .null)
  else
    let names ← engine.dialect.quoteAll "," (← columns.items)
    let values ← values.items
    .ok ("INSERT INTO " ++ engine.identifier table ++ " (" ++ names ++ ") VALUES ("
      ++ literals values ++ ");")

theorem readColumn_eq_ok_iff {description : Value} {spec : ColumnSpec} :
    (readColumn description).result = .ok spec ↔ (ColumnSpec.ofValue description).result = .ok spec :=
  Attempt.explaining_eq_ok_iff

theorem readTable_eq_ok_iff {table options : Value} {found : Table} :
    (readTable table options).result = .ok found ↔ (Table.ofValue options).result = .ok found :=
  Attempt.explaining_eq_ok_iff

theorem changePlan_ne_nil (engine : Engine) (table column : Value) (spec : ColumnSpec) :
    engine.changePlan table column spec ≠ [] := by
  simp [changePlan]

end SchemaChange.Engine
