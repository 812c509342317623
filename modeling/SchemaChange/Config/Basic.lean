/-
# SchemaChange.Config.Basic — the configuration of a driver

A configuration names an engine, says how to reach the database, and whether
statements are only logged.  `Config.describe` names the target without the
password; `Config.connectionParams` are the arguments for a client library, without
those that are unset.
-/
import SchemaChange.Engine
import SchemaChange.Value.Access

set_option autoImplicit false

namespace SchemaChange

/-- The configuration of a driver. -/
structure Config where
  engine : Engine
  host : Value
  port : Option Int
  user : Value
  password : Value
  database : Value
  native : Value
  /-- a connection that the caller has made -/
  connection : Value
  dryRun : Value
  options : Value

namespace Config

/-- A port as a value. -/
def portValue (config : Config) : Value :=
  match config.port with
  | some port => .int port
  | none => .null

/-- What is reported for a driver that is not supported. -/
def unsupportedDriver (driver : Value) : Report :=
  .configuration ("Unsupported driver: " ++ driver.display) (.text "driver")

/-- What is reported for a port that cannot be read. -/
def invalidPort (port : Value) : Report :=
  .configuration ("Invalid port: " ++ port.display) (.text "port")

/-- Reads a port; null is no port. -/
def readPort (port : Value) : Attempt (Option Int) :=
  if port.isNull then .ok none
  else Attempt.explaining (fun _ => .report (invalidPort port)) (port.toInteger.map some)

/-- The names of the fields of a configuration. -/
def fieldNames : List String :=
  ["driver", "host", "port", "user", "password", "database", "native", "db", "dry_run", "options"]

/-- The configuration of an engine with fields by name. -/
def ofEngine (engine : Engine) (fields : Entries) : Attempt Config := do
  let port ← readPort (fields.getD "port" .null)
  .ok {
    engine := engine
    host := fields.getD "host" .null
    port := port
    user := fields.getD "user" .null
    password := fields.getD "password" .null
    database := fields.getD "database" .null
    native := fields.getD "native" (.bool false)
    connection := fields.getD "db" .null
    dryRun := fields.getD "dry_run" (.bool false)
    options := fields.getD "options" (.map []) }

/-- The engine with exactly this name. -/
def engineNamed? (driver : Value) : Option Engine :=
  driver.text?.bind Engine.ofName?

/-- The configuration with fields by name, among them the name of the engine. -/
def ofFields (fields : Entries) : Attempt Config :=
  let known := fieldNames.map Value.text
  if !(fields.all fun field => known.any field.1.sameKey) then .misuse .wrongKind
  else match fields.get? "driver" with
    | none => .misuse .wrongKind
    | some driver =>
      match engineNamed? driver with
      | some engine => ofEngine engine fields
      | none => .report (unsupportedDriver driver)

/-- The arguments for a client library: the fields, overridden and extended by the options, as far
as they are set. -/
def connectionParams (config : Config) : Attempt Entries := do
  let options ← config.options.readEntries
  let fields : Entries :=
    [(.text "host", config.host), (.text "port", config.portValue), (.text "user", config.user),
     (.text "password", config.password), (.text "database", config.database)]
  .ok ((fields.update options).filter fun entry => !entry.2.isNull)

/-- The text of a value that counts as true, or else a text that stands for it. -/
def shownOr (value : Value) (absent : String) : String :=
  if value.truthy then value.display else absent

/-- The target of a configuration without the password. -/
def describe (config : Config) : String :=
  match config.engine with
  | .sqlite => "sqlite:///" ++ config.database.display
  | engine =>
    engine.name ++ "://"
      ++ (if config.user.truthy then config.user.display ++ ":***@" else "")
      ++ shownOr config.host "localhost"
      ++ (if config.portValue.truthy then ":" ++ config.portValue.display else "")
      ++ "/" ++ shownOr config.database ""

end Config

end SchemaChange
