/-
# SchemaChange.Config.Mapping — configurations from maps

A map of settings names its driver by any of the usual names of an engine.  Settings
that are no connection parameters become options, beside those given under
`options`, which they override.
-/
import SchemaChange.Config.Basic
import SchemaChange.Text.Case

set_option autoImplicit false

namespace SchemaChange.Config

/-- What is reported for settings without a driver. -/
def noDriver : Report :=
  .configuration "No driver specified" (.text "driver")

/-- The engine that a driver setting names, without regard to case. -/
def engineOfSetting? (driver : Value) : Option Engine :=
  Engine.ofAlias? (String.ofList (Text.lower driver.display.toList))

/-- The settings that become fields under their own names. -/
def parameterNames : List String :=
  ["host", "port", "user", "password", "database", "native", "db", "dry_run"]

/-- Whether a setting becomes a field and not an option. -/
def isFieldSetting (key : Value) : Bool :=
  (("driver" :: "dryRun" :: "options" :: parameterNames).map Value.text).any key.sameKey

/-- The settings that become options. -/
def optionSettings (settings : Entries) : Entries :=
  settings.filter fun setting => !isFieldSetting setting.1

/-- The options that settings list; what counts as false lists none. -/
def listedOptions (settings : Entries) : Attempt Entries :=
  let listed := settings.getD "options" .null
  if listed.truthy then listed.readEntries else .ok []

/-- Whether statements are only logged: the truth of one spelling, or the value of the other. -/
def dryRunSetting (settings : Entries) : Value :=
  match settings.get? "dryRun" with
  | some value => .bool value.truthy
  | none => settings.getD "dry_run" (.bool false)

/-- The configuration that the entries of a map describe. -/
def ofSettings (settings : Entries) : Attempt Config :=
  match settings.get? "driver" with
  | none => .report noDriver
  | some driver =>
    match engineOfSetting? driver with
    | none => .report (unsupportedDriver driver)
    | some engine => do
      let listed ← listedOptions settings
      let options := listed.update (optionSettings settings)
      ofEngine engine
        ((settings.put "options" (.map options)).put "dry_run" (dryRunSetting settings))

/-- The configuration that a value describes; it is searched for a driver before it is read as
a map. -/
def ofMapping (settings : Value) : Attempt Config := do
  if ← settings.has "driver" then ofSettings (← settings.readEntries)
  else .report noDriver

end SchemaChange.Config
