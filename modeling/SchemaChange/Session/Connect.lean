/-
# SchemaChange.Session.Connect — connecting

A session starts from a configuration or from the description of one.  It takes over
the connection that the configuration carries, in the adapter of its engine where it
is the connection of that engine's own client library, or has the client library
open one.  What a session meets on the way is its `Surroundings`: which libraries are
there, whether they refuse, and how they answer later.

A connection that has been opened is closed again if the version of its library is
too old (`isTooOld`).
-/
import SchemaChange.Config.Locator
import SchemaChange.Config.Mapping
import SchemaChange.Session.Basic

set_option autoImplicit false

namespace SchemaChange

/-- What a session meets outside itself. -/
structure Surroundings where
  /-- whether the client libraries for servers are there -/
  installed : Bool
  /-- the error with which a client library refuses to connect -/
  refusal : Option String
  /-- the version of the SQLite library -/
  sqliteVersion : List Int
  /-- how the caller's own connection answers -/
  plainReplies : List PlainReply
  /-- how a client library's connection answers -/
  cursorReplies : List CursorReply
  /-- how a connection meets its end -/
  closing : Closing := {}

/-- What a session starts from. -/
inductive Source where
  | description (value : Value)
  | config (config : Config)

namespace Connect

/-- An action on the way to a session. -/
abbrev Doing (α : Type) := Act Failure Unit Event α

/-- What is reported for a value that describes no configuration. -/
def invalidConfiguration (value : Value) : Report :=
  .configuration ("Invalid driver configuration: " ++ value.literal) .null

/-- The configuration that a value describes: a URI if it is a text, settings if it is a map. -/
def readConfig (value : Value) : Attempt Config :=
  match value.text?, value with
  | some uri, _ => Config.ofUri uri (.bool false)
  | none, .map entries => Config.ofMapping (.map entries)
  | none, value => .report (invalidConfiguration value)

/-- The configuration that a session starts from. -/
def readSource : Source → Attempt Config
  | .description value => readConfig value
  | .config config => .ok config

/-- Records a note for those who follow the work in detail. -/
def debug (logging : Logging) (text : String) : Doing Unit :=
  Act.emit (logging.note ⟨.debug, text⟩)

/-- The adapter of a connection to an engine. -/
def adapt (surroundings : Surroundings) (engine : Engine) : Link :=
  .adapter (.fresh engine surroundings.cursorReplies)

/-- Whether the client library of an engine is there. -/
def isInstalled (surroundings : Surroundings) : Engine → Bool
  | .sqlite => true
  | _ => surroundings.installed

/-- What is reported for an engine whose client library is missing. -/
def missingLibrary (engine : Engine) : Report :=
  let need := match engine with
    | .postgres =>
      "psycopg2 is required for PostgreSQL support. Install with: pip install psycopg2-binary"
    | .mysql => "PyMySQL is required for MySQL support. Install with: pip install PyMySQL"
    | .sqlite => ""
  .engine need engine.name

/-- The name of an engine in prose. -/
def properName : Engine → String
  | .postgres => "PostgreSQL"
  | .mysql => "MySQL"
  | .sqlite => "SQLite"

/-- What is reported for a client library that refuses to connect to a target. -/
def connectionRefused (engine : Engine) (target text : String) : Report :=
  ⟨"Failed to connect to " ++ properName engine ++ " database: " ++ text,
    .connection (.text (Masking.mask target)) (.text engine.name),
    [(.text "engine_name", .text engine.name), (.text Report.causeKey, .fault text)]⟩

/-- Asks a client library for a connection. -/
def callLibrary (surroundings : Surroundings) (engine : Engine) (arguments : Entries)
    (target : Value) : Doing Unit := do
  if !(arguments.all fun argument => argument.1.text?.isSome) then Act.fail (.misuse .wrongKind)
  else do
    Act.emit [.connect engine arguments]
    match surroundings.refusal with
    | none => pure ()
    | some text =>
      match target.text? with
      | some shown => Act.fail (.report (connectionRefused engine shown text))
      | none => Act.fail (.misuse .wrongKind)

/-- The arguments for PostgreSQL's client library, which has a name of its own for the
database. -/
def postgresArguments (params : Entries) : Entries :=
  match params.get? "database" with
  | some database => (params.erase "database").put "dbname" database
  | none => params

/-- Opens a connection to PostgreSQL. -/
def openPostgres (surroundings : Surroundings) (logging : Logging) (config : Config) :
    Doing Link := do
  let params ← config.connectionParams
  if config.native.truthy then debug logging "native bindings requested; using psycopg2"
  debug logging ("Connecting to PostgreSQL: " ++ config.describe)
  callLibrary surroundings .postgres (postgresArguments params) (.text config.describe)
  Act.emit [.configure .postgres]
  pure (adapt surroundings .postgres)

/-- The arguments for MySQL's client library. -/
def mysqlArguments (config : Config) : Attempt Entries := do
  let defaults : Entries :=
    [(.text "charset", .text "utf8mb4"), (.text "autocommit", .bool true),
     (.text "cursorclass", .text "DictCursor")]
  let params := defaults.update (← config.connectionParams)
  match params.get? "connect_timeout" with
  | some timeout => do
    let seconds ← timeout.toInteger
    .ok (params.put "connect_timeout" (.int seconds))
  | none => .ok params

/-- Opens a connection to MySQL. -/
def openMysql (surroundings : Surroundings) (logging : Logging) (config : Config) :
    Doing Link := do
  debug logging ("Connecting to MySQL: " ++ config.describe)
  let arguments ← mysqlArguments config
  callLibrary surroundings .mysql arguments (.text config.describe)
  pure (adapt surroundings .mysql)

/-- The first version of the SQLite library that is supported. -/
def minimumVersion : List Int := [3, 8, 6]

/-- Whether a version comes before another, by the first number in which they differ. -/
def versionBefore : List Int → List Int → Bool
  | _, [] => false
  | [], _ :: _ => true
  | a :: as, b :: bs => a < b || (a == b && versionBefore as bs)

/-- Whether a version of the SQLite library is not supported any more. -/
def isTooOld (version : List Int) : Bool :=
  versionBefore version minimumVersion

/-- What is reported for a version that is not supported any more. -/
def tooOld (version : List Int) : Report :=
  .engine ("dbmigrate requires SQLite 3.8.6 or later; found "
    ++ String.intercalate "." (version.map toString)) Engine.sqlite.name

/-- The seconds to wait for a locked SQLite database, if nothing else is said. -/
def defaultTimeout : Value := .float (Binary64.ofInt 30)

/-- The arguments for the SQLite library. -/
def sqliteArguments (config : Config) (database : Value) : Attempt Entries := do
  let options ← config.options.entries
  let timeout ← (options.getD "timeout" defaultTimeout).toFloat
  .ok [(.text "database", database), (.text "isolation_level", .null),
    (.text "timeout", .float timeout)]

/-- Opens an SQLite database. -/
def openSqlite (surroundings : Surroundings) (logging : Logging) (config : Config) :
    Doing Link := do
  let database := if config.database.truthy then config.database else .text Config.memoryDatabase
  let arguments ← sqliteArguments config database
  callLibrary surroundings .sqlite arguments database
  if isTooOld surroundings.sqliteVersion then do
    Act.emit [.close]
    Closing.outcome surroundings.closing.connectionError
    Act.fail (.report (tooOld surroundings.sqliteVersion))
  else do
    debug logging ("Connected to SQLite database: " ++ database.display)
    Act.emit [.configure .sqlite]
    pure (adapt surroundings .sqlite)

/-- Has the client library of an engine open a connection. -/
def openNew (surroundings : Surroundings) (logging : Logging) (config : Config) : Doing Link := do
  if !isInstalled surroundings config.engine then
    Act.fail (.report (missingLibrary config.engine))
  else match config.engine with
    | .postgres => openPostgres surroundings logging config
    | .mysql => openMysql surroundings logging config
    | .sqlite => openSqlite surroundings logging config

/-- Takes over a connection that the caller has made. -/
def takeOver (surroundings : Surroundings) (engine : Engine) (connection : Value) : Doing Link :=
  match connection with
  | .connection .plain => pure (.plain surroundings.plainReplies)
  | .connection (.raw made) =>
    if made = engine ∧ isInstalled surroundings engine = true then do
      if engine = .sqlite then Act.emit [.configure .sqlite]
      pure (adapt surroundings engine)
    else pure (.bare connection)
  | value => pure (.bare value)

/-- Starts a session from a configuration. -/
def start (surroundings : Surroundings) (logging : Logging) (config : Config) : Doing Session := do
  debug logging ("Using " ++ config.engine.driverName ++ " for " ++ config.describe)
  let link ←
    if config.connection.isNull then openNew surroundings logging config
    else takeOver surroundings config.engine config.connection
  debug logging ("Connected to " ++ config.describe)
  pure ⟨config.engine, config.dryRun, logging, false, link, surroundings.closing⟩

/-- Starts a session. -/
def connect (surroundings : Surroundings) (logging : Logging) (source : Source) :
    Doing Session := do
  let config ← readSource source
  start surroundings logging config

end Connect

/-- The driver that serves an engine of a name. -/
def Engine.driverOf (name : String) : Attempt String :=
  match Engine.ofName? name with
  | some engine => .ok engine.driverName
  | none => .report ⟨"Unsupported driver type: " ++ name, .engine .null .null, []⟩

end SchemaChange
