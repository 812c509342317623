/-
# SchemaChange.Proofs.Config.Settings — a configuration holds what the settings give

`Settings` are named values from which a configuration can be made, and `Settings.config` says
where each of them goes: the driver becomes the engine, a parameter its field, and everything else
an option, over the options that are given as such.

* `ofMapping_given` — this is the configuration that is made of them.
* `ofMapping_fields` — a configuration is made again of its own fields.
* `settings_are_kept` — both, with the place of every name.
-/
import SchemaChange.Config.Mapping
import SchemaChange.Proofs.Value.Update

set_option autoImplicit false

namespace SchemaChange.Config

/-- The names that are not those of options. -/
def fieldSettings : List String :=
  ["driver", "host", "port", "user", "password", "database", "native", "db", "dry_run", "dryRun",
   "options"]

/-- Named values from which a configuration can be made. -/
structure Settings where
  given : List (String × Value)
  engine : Engine
  driver : Value
  distinct : (given.map Prod.fst).Nodup
  driver_given : given.lookup "driver" = some driver
  driver_named : Engine.ofAlias? (String.ofList (Text.lower driver.display.toList)) = some engine
  port_given : ∀ port, given.lookup "port" = some port →
    port = .null ∨ ∃ number, port.integer? = some number
  options_given : ∀ options, given.lookup "options" = some options →
    options.truthy = false ∨ ∃ entries : Entries, options = .map entries ∧ entries.textKeys.Nodup

namespace Settings

/-- The value of a name, or else a default. -/
def value (settings : Settings) (name : String) (default : Value) : Value :=
  (settings.given.lookup name).getD default

/-- The options that are given as such. -/
def nested (settings : Settings) : Entries :=
  match settings.given.lookup "options" with
  | some (.map entries) => entries
  | _ => []

/-- The values that become options because they are nothing else. -/
def remaining (settings : Settings) : List (String × Value) :=
  settings.given.filter fun setting => !fieldSettings.contains setting.1

/-- The options of the configuration. -/
def options (settings : Settings) : Entries :=
  settings.nested.overriddenBy settings.remaining

/-- Whether statements are only logged: the truth of `dryRun`, or else the value of `dry_run`. -/
def dryRun (settings : Settings) : Value :=
  match settings.given.lookup "dryRun" with
  | some value => .bool value.truthy
  | none => settings.value "dry_run" (.bool false)

/-- The configuration that settings ask for. -/
def config (settings : Settings) : Config where
  engine := settings.engine
  host := settings.value "host" .null
  port := (settings.given.lookup "port").bind Value.integer?
  user := settings.value "user" .null
  password := settings.value "password" .null
  database := settings.value "database" .null
  native := settings.value "native" (.bool false)
  connection := settings.value "db" .null
  dryRun := settings.dryRun
  options := .map settings.options

end Settings

/-- The fields of a configuration by name. -/
def fields (config : Config) : List (String × Value) :=
  [("driver", .text config.engine.name), ("host", config.host), ("port", config.portValue),
   ("user", config.user), ("password", config.password), ("database", config.database),
   ("native", config.native), ("db", config.connection), ("dry_run", config.dryRun),
   ("options", config.options)]

/-! ## Reading named values -/

theorem getD_named (values : List (String × Value)) (name : String) (default : Value) :
    (Entries.named values).getD name default = (values.lookup name).getD default := by
  rw [Entries.getD, Entries.get?_named]

theorem isFieldSetting_text (name : String) :
    isFieldSetting (.text name) = fieldSettings.contains name := by
  rw [Bool.eq_iff_iff]
  simp [isFieldSetting, parameterNames, fieldSettings, Value.sameKey]
  tauto

/-- What becomes an option is found by its name. -/
theorem optionSettings_named (values : List (String × Value)) :
    optionSettings (Entries.named values)
      = Entries.named (values.filter fun setting => !fieldSettings.contains setting.1) := by
  rw [optionSettings, Entries.named, List.filter_map, Entries.named]
  congr 1
  refine List.filter_congr fun setting _ => ?_
  simp only [Function.comp, isFieldSetting_text]

theorem ofMapping_named {values : List (String × Value)} {driver : Value} {engine : Engine}
    (given : values.lookup "driver" = some driver) (named : engineOfSetting? driver = some engine) :
    ofMapping (.map (Entries.named values)) = (do
      let listed ← listedOptions (Entries.named values)
      let options := listed.update (optionSettings (Entries.named values))
      ofEngine engine (((Entries.named values).put "options" (.map options)).put "dry_run"
        (dryRunSetting (Entries.named values)))) := by
  have found : (Entries.named values).get? "driver" = some driver := by
    rw [Entries.get?_named, given]
  show (if (Entries.named values).contains "driver" then ofSettings (Entries.named values)
    else Attempt.report noDriver) = _
  rw [Entries.contains, found, Option.isSome_some, if_pos rfl, ofSettings]
  simp only [found, named]

/-- A configuration takes its fields from named values, apart from the two that are made for it. -/
theorem ofEngine_named (engine : Engine) (values : List (String × Value)) (options dryRun : Value)
    {port : Option Int} (read : readPort ((values.lookup "port").getD .null) = .ok port) :
    ofEngine engine (((Entries.named values).put "options" options).put "dry_run" dryRun) = .ok {
      engine := engine, host := (values.lookup "host").getD .null, port := port
      user := (values.lookup "user").getD .null
      password := (values.lookup "password").getD .null
      database := (values.lookup "database").getD .null
      native := (values.lookup "native").getD (.bool false)
      connection := (values.lookup "db").getD .null, dryRun := dryRun, options := options } := by
  have kept (name : String) (default : Value) (first : name ≠ "dry_run")
      (second : name ≠ "options") :
      (((Entries.named values).put "options" options).put "dry_run" dryRun).getD name default
        = (values.lookup name).getD default := by
    rw [Entries.getD, Entries.get?_put_other first, Entries.get?_put_other second,
      Entries.get?_named]
  have made : (((Entries.named values).put "options" options).put "dry_run" dryRun).getD "options"
      (.map []) = options := by
    rw [Entries.getD, Entries.get?_put_other (by decide), Entries.get?_put_same, Option.getD_some]
  have logged : (((Entries.named values).put "options" options).put "dry_run" dryRun).getD "dry_run"
      (.bool false) = dryRun := by
    rw [Entries.getD, Entries.get?_put_same, Option.getD_some]
  rw [ofEngine, kept "port" .null (by decide) (by decide), read,
    kept "host" .null (by decide) (by decide), kept "user" .null (by decide) (by decide),
    kept "password" .null (by decide) (by decide), kept "database" .null (by decide) (by decide),
    kept "native" (.bool false) (by decide) (by decide), kept "db" .null (by decide) (by decide),
    made, logged]
  rfl

/-! ## Settings -/

namespace Settings

variable (settings : Settings)

/-- The port of settings is read as the integer that it is. -/
theorem readPort_given :
    readPort (settings.value "port" .null)
      = .ok ((settings.given.lookup "port").bind Value.integer?) := by
  rw [value]
  cases given : settings.given.lookup "port" with
  | none => rfl
  | some port =>
      rcases settings.port_given port given with rfl | ⟨number, integer⟩
      · rfl
      · cases port with
        | bool b => rfl
        | int n => rfl
        | _ => cases integer

/-- The options that are given as such are a map, or count as false and list none. -/
theorem nested_cases :
    (∃ entries : Entries, settings.given.lookup "options" = some (.map entries)
      ∧ settings.nested = entries ∧ entries.textKeys.Nodup)
    ∨ (settings.value "options" .null).truthy = false ∧ settings.nested = [] := by
  cases given : settings.given.lookup "options" with
  | none => exact .inr ⟨by rw [value, given]; rfl, by rw [nested, given]⟩
  | some options =>
      rcases settings.options_given options given with falsy | ⟨entries, rfl, distinct⟩
      · refine .inr ⟨by rw [value, given]; exact falsy, ?_⟩
        rw [nested, given]
        cases options with
        | map entries =>
            cases entries with
            | nil => rfl
            | cons entry rest => cases falsy
        | _ => rfl
      · exact .inl ⟨entries, rfl, by rw [nested, given], distinct⟩

theorem listedOptions_given : listedOptions (Entries.named settings.given) = .ok settings.nested := by
  rw [listedOptions, getD_named]
  rcases settings.nested_cases with ⟨entries, given, same, -⟩ | ⟨falsy, none⟩
  · rw [given, same]
    cases entries <;> rfl
  · rw [value] at falsy
    rw [falsy, none, if_neg Bool.false_ne_true]

theorem nodup_nested : settings.nested.textKeys.Nodup := by
  rcases settings.nested_cases with ⟨entries, -, same, distinct⟩ | ⟨-, none⟩
  · rw [same]
    exact distinct
  · rw [none]
    exact List.nodup_nil

theorem nodup_remaining : (settings.remaining.map Prod.fst).Nodup :=
  settings.distinct.sublist (List.filter_sublist.map Prod.fst)

theorem dryRunSetting_given :
    dryRunSetting (Entries.named settings.given) = settings.dryRun := by
  rw [dryRunSetting, Entries.get?_named, getD_named]
  rfl

/-- **The configuration that is made of settings is the one that they ask for.** -/
theorem ofMapping_given :
    ofMapping (.map (Entries.named settings.given)) = .ok settings.config := by
  rw [ofMapping_named settings.driver_given settings.driver_named, settings.listedOptions_given,
    optionSettings_named, dryRunSetting_given]
  show ofEngine settings.engine (((Entries.named settings.given).put "options"
    (.map (settings.nested.update (Entries.named settings.remaining)))).put "dry_run"
      settings.dryRun) = _
  rw [Entries.update_named settings.nodup_nested settings.nodup_remaining,
    ofEngine_named _ _ _ _ settings.readPort_given]
  rfl

/-- A name of a field is an option only if it is given as one, and any other name is an option if
it is given at all. -/
theorem get?_options (name : String) :
    settings.options.get? name =
      if name ∈ fieldSettings then settings.nested.get? name
      else (settings.given.lookup name).or (settings.nested.get? name) := by
  rw [options, Entries.get?_overriddenBy, remaining,
    Entries.lookup_filter (fun name => !fieldSettings.contains name)]
  by_cases member : name ∈ fieldSettings
  · rw [if_pos member, if_neg (by simpa using member), Option.none_or]
  · rw [if_neg member, if_pos (by simpa using member)]

end Settings

/-- **A configuration is made again of its own fields.** -/
theorem ofMapping_fields {config : Config} {entries : Entries} (options : config.options = .map entries) :
    ofMapping (.map (Entries.named config.fields)) = .ok config := by
  have driver : config.fields.lookup "driver" = some (.text config.engine.name) := rfl
  have named : engineOfSetting? (.text config.engine.name) = some config.engine := by
    cases config.engine <;> decide +kernel
  have listed : listedOptions (Entries.named config.fields) = .ok entries := by
    rw [listedOptions, getD_named]
    show (if config.options.truthy then config.options.readEntries else .ok []) = _
    rw [options]
    cases entries <;> rfl
  have others : optionSettings (Entries.named config.fields) = [] := by
    rw [optionSettings_named]
    rfl
  have port : readPort ((config.fields.lookup "port").getD .null) = .ok config.port := by
    show readPort config.portValue = _
    rw [portValue]
    cases config.port <;> rfl
  have dryRun : dryRunSetting (Entries.named config.fields) = config.dryRun := by
    rw [dryRunSetting, Entries.get?_named, getD_named]
    rfl
  rw [ofMapping_named driver named, listed, others, dryRun]
  show ofEngine config.engine (((Entries.named config.fields).put "options" (.map entries)).put
    "dry_run" config.dryRun) = _
  rw [ofEngine_named _ _ _ _ port, ← options]
  rfl

/-- **No setting is lost and none is invented**: a configuration has of the settings what they ask
for, every name in its place, and is made again of its own fields. -/
theorem settings_are_kept :
    (∀ settings : Settings,
      ofMapping (.map (Entries.named settings.given)) = .ok settings.config ∧
        ∀ name, settings.options.get? name =
          if name ∈ fieldSettings then settings.nested.get? name
          else (settings.given.lookup name).or (settings.nested.get? name)) ∧
    ∀ (config : Config) (entries : Entries), config.options = .map entries →
      ofMapping (.map (Entries.named config.fields)) = .ok config :=
  ⟨fun settings => ⟨settings.ofMapping_given, settings.get?_options⟩,
    fun _ _ options => ofMapping_fields options⟩

/-- Settings that give an option at two places, and the dry run under two names. -/
def overlappingSettings : Settings where
  given :=
    [("port", .int 5432), ("dry_run", .text "no"), ("sslmode", .text "require"),
     ("options", .map [(.text "host", .text "a"), (.text "sslmode", .text "disable")]),
     ("driver", .text "PostgreSQL"), ("dryRun", .int 0), ("schema", .text "app")]
  engine := .postgres
  driver := .text "PostgreSQL"
  distinct := by decide
  driver_given := rfl
  driver_named := by decide +kernel
  port_given := by
    rintro port ⟨⟩
    exact .inr ⟨5432, rfl⟩
  options_given := by
    rintro options ⟨⟩
    exact .inr ⟨_, rfl, by decide⟩

/-- The configuration of those settings. -/
def overlappingConfig : Config where
  engine := .postgres
  host := .null
  port := some 5432
  user := .null
  password := .null
  database := .null
  native := .bool false
  connection := .null
  dryRun := .bool false
  options := .map
    [(.text "host", .text "a"), (.text "sslmode", .text "require"), (.text "schema", .text "app")]

theorem overlapping_settings_are_kept :
    ofMapping (.map (Entries.named overlappingSettings.given)) = .ok overlappingConfig ∧
      ofMapping (.map (Entries.named overlappingConfig.fields)) = .ok overlappingConfig :=
  ⟨(settings_are_kept.1 overlappingSettings).1, settings_are_kept.2 overlappingConfig _ rfl⟩

end SchemaChange.Config
