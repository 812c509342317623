/-
# SchemaChange.Operation.Basic — the operations of a driver

The schema changes, the statements and the bookkeeping that a driver is asked for,
and how a step of a migration names them: by a word and positional arguments, the
last of which may have defaults (`Step.ofCall`).
-/
import SchemaChange.Failure

set_option autoImplicit false

namespace SchemaChange

/-- What a driver can be asked to do. -/
inductive Operation where
  | createTable (table options : Value)
  | dropTable (table ifExists : Value)
  | renameTable (table newTable : Value)
  | addColumn (table column spec : Value)
  | removeColumn (table column : Value)
  | renameColumn (table column newColumn : Value)
  | changeColumn (table column spec : Value)
  | addIndex (table index columns unique : Value)
  | removeIndex (index table : Value)
  | addForeignKey (table key columns parent parentColumns actions : Value)
  | removeForeignKey (table key : Value)
  | insert (table columns values : Value)
  | createMigrationsTable
  | addMigrationRecord (name : Value)
  | loadedMigrations
  | run (template params : Value)
  | query (template params : Value)
  | startMigration
  | endMigration
  | quote (identifier : Value)

/-- A step of a session: an operation, the end of the connection, or the end of the client's
newest cursor. -/
inductive Step where
  | operation (operation : Operation)
  | close
  | expireCursor

namespace Operation

/-- The operation that a word and arguments name. -/
def ofCall? (word : String) (arguments : List Value) : Option Operation :=
  match word, arguments with
  | "create_table", [table, options] => some (.createTable table options)
  | "drop_table", [table] => some (.dropTable table (.bool false))
  | "drop_table", [table, ifExists] => some (.dropTable table ifExists)
  | "rename_table", [table, newTable] => some (.renameTable table newTable)
  | "add_column", [table, column, spec] => some (.addColumn table column spec)
  | "remove_column", [table, column] => some (.removeColumn table column)
  | "rename_column", [table, column, newColumn] => some (.renameColumn table column newColumn)
  | "change_column", [table, column, spec] => some (.changeColumn table column spec)
  | "add_index", [table, index, columns] => some (.addIndex table index columns (.bool false))
  | "add_index", [table, index, columns, unique] => some (.addIndex table index columns unique)
  | "remove_index", [index] => some (.removeIndex index .null)
  | "remove_index", [index, table] => some (.removeIndex index table)
  | "add_foreign_key", [table, key, columns, parent, parentColumns] =>
    some (.addForeignKey table key columns parent parentColumns .null)
  | "add_foreign_key", [table, key, columns, parent, parentColumns, actions] =>
    some (.addForeignKey table key columns parent parentColumns actions)
  | "remove_foreign_key", [table, key] => some (.removeForeignKey table key)
  | "insert", [table, columns, values] => some (.insert table columns values)
  | "create_migrations_table", [] => some .createMigrationsTable
  | "add_migration_record", [name] => some (.addMigrationRecord name)
  | "all_loaded_migrations", [] => some .loadedMigrations
  | "run_sql", [template] => some (.run template .null)
  | "run_sql", [template, params] => some (.run template params)
  | "all", [template] => some (.query template .null)
  | "all", [template, params] => some (.query template params)
  | "start_migration", [] => some .startMigration
  | "end_migration", [] => some .endMigration
  | "quote", [identifier] => some (.quote identifier)
  | _, _ => none

end Operation

namespace Step

/-- The step that a word and arguments name; other words or arguments are refused. -/
def ofCall (word : String) (arguments : List Value) : Attempt Step :=
  if word = "close" ∧ arguments.isEmpty then .ok .close
  else if word = "expire_cursor" ∧ arguments.isEmpty then .ok .expireCursor
  else match Operation.ofCall? word arguments with
    | some found => .ok (.operation found)
    | none => .misuse .wrongKind

end Step

end SchemaChange
