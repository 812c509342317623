/-
# SchemaChange.Proofs.Config.Password — configurations that differ in their password

`Config.withPassword` replaces the password of a configuration.  Settings that agree apart
from their password are read as configurations that do (`ofMapping_password`), and the
arguments for a client library agree apart from the password then
(`connectionParams_password`, `postgresArguments_password`, `mysqlArguments_password`).
-/
import SchemaChange.Proofs.Value.Entries
import SchemaChange.Session.Connect

set_option autoImplicit false

namespace SchemaChange

/-- Attempts that agree in a part of what they give fail alike or succeed alike. -/
theorem Attempt.map_eq_map_cases {α β : Type} {f : α → β} {first second : Attempt α}
    (agree : first.map f = second.map f) :
    (∃ failure, first = .error failure ∧ second = .error failure) ∨
      ∃ a b, first = .ok a ∧ second = .ok b ∧ f a = f b := by
  cases first with
  | error failure =>
      cases second with
      | error other => exact .inl ⟨failure, rfl, by cases agree; rfl⟩
      | ok b => cases agree
  | ok a =>
      cases second with
      | error other => cases agree
      | ok b => exact .inr ⟨a, b, rfl, rfl, Except.ok.inj agree⟩

/-- Entries without the password. -/
def Entries.withoutPassword (entries : Entries) : Entries :=
  entries.erase "password"

namespace Config

/-- A configuration with another password. -/
def withPassword (config : Config) (password : Value) : Config :=
  { config with password := password }

variable {settings others : Entries}

/-! ## Reading settings -/

theorem ofEngine_password (engine : Engine)
    (agree : settings.withoutPassword = others.withoutPassword) :
    ofEngine engine others =
      (ofEngine engine settings).map (withPassword · (others.getD "password" .null)) := by
  have same (name : String) (apart : name ≠ "password") (default : Value) :
      settings.getD name default = others.getD name default :=
    Entries.getD_congr apart agree default
  unfold ofEngine
  rw [same "port" (by decide), same "host" (by decide), same "user" (by decide),
    same "database" (by decide), same "native" (by decide), same "db" (by decide),
    same "dry_run" (by decide), same "options" (by decide)]
  cases readPort (others.getD "port" .null) <;> rfl

theorem isFieldSetting_password {key : Value} (password : key.text? = some "password") :
    isFieldSetting key = true := by
  refine List.any_eq_true.2 ⟨.text "password", ?_, (Value.sameKey_text_right_iff _ _).2 password⟩
  simp [parameterNames]

/-- The password is no option. -/
theorem optionSettings_password (agree : settings.withoutPassword = others.withoutPassword) :
    optionSettings settings = optionSettings others := by
  have kept (entries : Entries) :
      entries.withoutPassword.filter (fun setting => !isFieldSetting setting.1)
        = optionSettings entries := by
    refine Entries.filter_of_erase ?_ entries
    intro k value password
    rw [isFieldSetting_password password]
    rfl
  rw [← kept settings, agree, kept others]

/-- **Settings that agree apart from their password are read as configurations that do**, or cannot
be read for the same reason. -/
theorem ofSettings_password (agree : settings.withoutPassword = others.withoutPassword) :
    ∃ password, ofSettings others = (ofSettings settings).map (withPassword · password) := by
  have same (name : String) (apart : name ≠ "password") : settings.get? name = others.get? name :=
    Entries.get?_congr apart agree
  have listed : listedOptions settings = listedOptions others := by
    rw [listedOptions, Entries.getD, same "options" (by decide)]
    rfl
  have dryRun : dryRunSetting settings = dryRunSetting others := by
    rw [dryRunSetting, same "dryRun" (by decide), Entries.getD, same "dry_run" (by decide)]
    rfl
  unfold ofSettings
  rw [same "driver" (by decide), listed, dryRun, optionSettings_password agree]
  cases others.get? "driver" with
  | none => exact ⟨.null, rfl⟩
  | some driver =>
      dsimp only
      cases engineOfSetting? driver with
      | none => exact ⟨.null, rfl⟩
      | some engine =>
          cases listedOptions others with
          | error failure => exact ⟨.null, rfl⟩
          | ok options =>
              refine ⟨_, ofEngine_password engine ?_⟩
              show Entries.erase _ "password" = Entries.erase _ "password"
              rw [Entries.erase_put (by decide), Entries.erase_put (by decide),
                Entries.erase_put (by decide), Entries.erase_put (by decide)]
              exact congrArg (fun entries => Entries.put (Entries.put entries _ _) _ _) agree

theorem ofMapping_password (agree : settings.withoutPassword = others.withoutPassword) :
    ∃ password, ofMapping (.map others) = (ofMapping (.map settings)).map (withPassword · password) := by
  have named : settings.contains "driver" = others.contains "driver" := by
    rw [Entries.contains, Entries.get?_congr (by decide) agree, Entries.contains]
  obtain ⟨password, read⟩ := ofSettings_password agree
  show ∃ password, (if others.contains "driver" then ofSettings others else Attempt.report noDriver)
    = Except.map (withPassword · password)
      (if settings.contains "driver" then ofSettings settings else Attempt.report noDriver)
  rw [named]
  refine ⟨password, ?_⟩
  split
  · exact read
  · rfl

/-! ## The arguments for a client library -/

theorem connectionParams_password (config : Config) (password : Value) :
    (config.withPassword password).connectionParams.map Entries.withoutPassword
      = config.connectionParams.map Entries.withoutPassword := by
  unfold connectionParams
  show Except.map _ (config.options.readEntries >>= _) = _
  cases config.options.readEntries with
  | error failure => rfl
  | ok options =>
      show Except.ok (Entries.erase _ "password") = Except.ok (Entries.erase _ "password")
      rw [Entries.erase_filter, Entries.erase_filter, Entries.erase_update, Entries.erase_update]
      rfl

end Config

namespace Connect

variable {params others : Entries}

theorem postgresArguments_password (agree : params.withoutPassword = others.withoutPassword) :
    (postgresArguments params).withoutPassword = (postgresArguments others).withoutPassword := by
  unfold postgresArguments
  rw [Entries.get?_congr (by decide) agree]
  cases others.get? "database" with
  | none => exact agree
  | some database =>
      show Entries.erase _ "password" = Entries.erase _ "password"
      rw [Entries.erase_put (by decide), Entries.erase_put (by decide), Entries.erase_erase,
        Entries.erase_erase "database"]
      exact congrArg (fun entries => Entries.put (Entries.erase entries _) _ _) agree

/-- Arguments whose time to wait for a connection is a number of whole seconds. -/
def wholeTimeout (params : Entries) : Attempt Entries :=
  match params.get? "connect_timeout" with
  | some timeout => timeout.toInteger.map fun seconds => params.put "connect_timeout" (.int seconds)
  | none => .ok params

theorem wholeTimeout_password (agree : params.withoutPassword = others.withoutPassword) :
    (wholeTimeout params).map Entries.withoutPassword
      = (wholeTimeout others).map Entries.withoutPassword := by
  unfold wholeTimeout
  rw [Entries.get?_congr (by decide) agree]
  cases others.get? "connect_timeout" with
  | none => exact congrArg Except.ok agree
  | some timeout =>
      dsimp only
      cases timeout.toInteger with
      | error failure => rfl
      | ok seconds =>
          show Except.ok (Entries.erase _ "password") = Except.ok (Entries.erase _ "password")
          rw [Entries.erase_put (by decide), Entries.erase_put (by decide)]
          exact congrArg (fun entries => Except.ok (Entries.put entries _ _)) agree

/-- The arguments for MySQL's client library that a configuration can override. -/
def mysqlDefaults : Entries :=
  [(.text "charset", .text "utf8mb4"), (.text "autocommit", .bool true),
   (.text "cursorclass", .text "DictCursor")]

theorem mysqlArguments_eq (config : Config) :
    mysqlArguments config =
      config.connectionParams.bind fun params => wholeTimeout (mysqlDefaults.update params) := by
  unfold mysqlArguments
  cases config.connectionParams with
  | error failure => rfl
  | ok params =>
      show _ = wholeTimeout (mysqlDefaults.update params)
      unfold wholeTimeout
      show (match Entries.get? (mysqlDefaults.update params) "connect_timeout" with
        | some timeout => _
        | none => _) = _
      cases Entries.get? (mysqlDefaults.update params) "connect_timeout" with
      | none => rfl
      | some timeout =>
          dsimp only
          cases timeout.toInteger <;> rfl

theorem mysqlArguments_password (config : Config) (password : Value) :
    (mysqlArguments (config.withPassword password)).map Entries.withoutPassword
      = (mysqlArguments config).map Entries.withoutPassword := by
  rw [mysqlArguments_eq, mysqlArguments_eq]
  rcases Attempt.map_eq_map_cases (config.connectionParams_password password) with
    ⟨failure, first, second⟩ | ⟨params, others, first, second, agree⟩
  · rw [first, second]
  · rw [first, second]
    apply wholeTimeout_password
    show Entries.erase _ "password" = Entries.erase _ "password"
    rw [Entries.erase_update, Entries.erase_update]
    exact congrArg (Entries.update (Entries.erase mysqlDefaults "password")) agree

end Connect

end SchemaChange
