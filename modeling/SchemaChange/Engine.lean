/-
# SchemaChange.Engine — the database engines

The three engines that schema changes are rendered for, with the names under
which configurations, messages and logs know them.
-/

set_option autoImplicit false

namespace SchemaChange

/-- A database engine. -/
inductive Engine where
  | postgres
  | mysql
  | sqlite
  deriving DecidableEq, Repr

namespace Engine

/-- The name of an engine in configurations and messages. -/
def name : Engine → String
  | .postgres => "pg"
  | .mysql => "mysql"
  | .sqlite => "sqlite"

/-- The name of the driver that serves an engine. -/
def driverName : Engine → String
  | .postgres => "PostgreSQLDriver"
  | .mysql => "MySQLDriver"
  | .sqlite => "SQLiteDriver"

/-- The engine of a name. -/
def ofName? (name : String) : Option Engine :=
  if name = "pg" then some .postgres
  else if name = "mysql" then some .mysql
  else if name = "sqlite" then some .sqlite
  else none

/-- The engine that a configuration names by one of its usual names, in lower case. -/
def ofAlias? (name : String) : Option Engine :=
  if name = "postgres" ∨ name = "postgresql" then some .postgres
  else if name = "sqlite3" then some .sqlite
  else ofName? name

/-- The names of all engines in alphabetical order. -/
def allNames : List String := ["mysql", "pg", "sqlite"]

end Engine

end SchemaChange
