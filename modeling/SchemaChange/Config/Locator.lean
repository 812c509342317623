/-
# SchemaChange.Config.Locator — configurations from connection URIs

The scheme of a URI names the engine, its authority the user, password, host and
port, its path the database and its query the options.  User and password are
percent-encoded.  The path of an SQLite URI is the name of a file after one slash,
and the database in memory if there is none.
-/
import SchemaChange.Config.Basic
import SchemaChange.Masking
import SchemaChange.Uri.Basic
import SchemaChange.Uri.Query

set_option autoImplicit false

namespace SchemaChange.Config

open SchemaChange.Text

/-- What is reported for a URI that cannot be taken apart. -/
def invalidUri (uri : String) (fault : Uri.Fault) : Report :=
  .configuration ("Invalid connection URI " ++ Masking.mask uri ++ ": " ++ fault.message) .null

/-- What is reported for a scheme that names no engine. -/
def unsupportedScheme (scheme : List Char) : Report :=
  .configuration
    ("Unsupported URI scheme: " ++ (if scheme.isEmpty then "(none)" else String.ofList scheme))
    (.text "driver")

/-- The values that turn a field on. -/
def affirmations : List String := ["1", "true", "yes", "on"]

/-- The name of the field that asks for native bindings. -/
def nativeField : String := "native"

/-- Whether the fields of a query ask for native bindings. -/
def asksNative (fields : List Uri.Field) : Bool :=
  match fields.find? fun field => field.name == nativeField with
  | some field => affirmations.contains (String.ofList (lower field.value.toList))
  | none => false

/-- The options that the fields of a query give. -/
def optionsOf (fields : List Uri.Field) : Entries :=
  (fields.filter fun field => field.name != nativeField).map fun field =>
    (.text field.name, .text field.value)

/-- A text as a value; an empty one is null. -/
def textOrNull (text : List Char) : Value :=
  if text.isEmpty then .null else .text (String.ofList text)

/-- The name of the database in memory. -/
def memoryDatabase : String := ":memory:"

/-- The database that the path of an SQLite URI names. -/
def fileOfPath (path : List Char) : Value :=
  let file := match path with
    | '/' :: file => file
    | file => file
  if file.isEmpty then .text memoryDatabase else .text (String.ofList file)

/-- A percent-encoded part of an authority. -/
def decoded (part : Option (List Char)) : Value :=
  textOrNull (Percent.decode (part.getD []))

/-- The configuration that the parts of a URI give. -/
def ofParts (engine : Engine) (uri : Uri) (port : Option Nat) (dryRun : Value) : Config :=
  let fields := Uri.firstFields (Uri.fields uri.query)
  let options := Value.map (optionsOf fields)
  match engine with
  | .sqlite =>
    { engine := engine, host := .null, port := none, user := .null, password := .null
      database := fileOfPath uri.path, native := .bool false, connection := .null
      dryRun := dryRun, options := options }
  | engine =>
    { engine := engine, host := textOrNull uri.host, port := port.map Int.ofNat
      user := decoded uri.userInfo.1, password := decoded uri.userInfo.2
      database := textOrNull (uri.path.dropWhile (· == '/')), native := .bool (asksNative fields)
      connection := .null, dryRun := dryRun, options := options }

/-- The parts of a URI with its port. -/
def parts (uri : String) : Except Uri.Fault (Uri × Option Nat) := do
  let split ← Uri.split uri.toList
  let port ← split.port
  .ok (split, port)

/-- The configuration that a connection URI gives. -/
def ofUri (uri : String) (dryRun : Value) : Attempt Config :=
  match parts uri with
  | .error fault => .report (invalidUri uri fault)
  | .ok (split, port) =>
    match Engine.ofAlias? (String.ofList split.scheme) with
    | none => .report (unsupportedScheme split.scheme)
    | some engine => .ok (ofParts engine split port dryRun)

end SchemaChange.Config
