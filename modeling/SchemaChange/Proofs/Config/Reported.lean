/-
# SchemaChange.Proofs.Config.Reported — bad settings, and how they are reported

Settings may have values of any kind.  Making a configuration of them goes through three readings:
the driver must name an engine, the options must list entries, and the port must be a number.  The
first is reported if it fails.  The last is reported unless the port is infinite, since an infinite
number has the right kind and can be read, and is only too great.  The second is never reported.

A report shows the driver, or the port that is no number.  All this is stated of settings of which
these two can be written (`Showable`): no integer in them has too many digits.

* `readEntries_demands`, `readPort_cases` — what the last two readings ask for.
* `ofMapping_unnamed`, `ofMapping_of_engine` — what making a configuration comes to.
* `bad_settings_are_reported_iff` — which settings are reported, or make a configuration.
* `infinite_port_is_not_reported` — settings that are neither.
-/
import SchemaChange.Config.Mapping
import SchemaChange.Proofs.Value.Update
import SchemaChange.Proofs.Value.Written

set_option autoImplicit false

namespace SchemaChange

/-- An attempt succeeds if a condition is met, and otherwise fails by misuse of an argument. -/
inductive Attempt.Demands {α : Type} : Bool → Attempt α → Prop
  | met (a : α) : Demands true (.ok a)
  | unmet {cause : Misuse} (fault : (Failure.misuse cause).isArgumentFault = true) :
      Demands false (.misuse cause)

theorem Attempt.Demands.bind {α β : Type} {first second : Bool} {attempt : Attempt α}
    {next : α → Attempt β} (here : Demands first attempt) (there : ∀ a, Demands second (next a)) :
    Demands (first && second) (attempt.bind next) := by
  cases here with
  | met a => exact there a
  | unmet fault => exact .unmet fault

/-! ## Entries from pairs -/

namespace Value

open Attempt (Demands)

/-- Whether a value is a pair of a key and another value. -/
def isPair (value : Value) : Bool :=
  match value.items with
  | .ok [key, _] => key.isKey
  | _ => false

/-- Whether a value is a map, or lists the entries of one as pairs. -/
def listsEntries : Value → Bool
  | .map _ => true
  | value =>
    match value.items with
    | .ok items => items.all isPair
    | .error _ => false

theorem items_error {value : Value} {failure : Failure} (failed : value.items = .error failure) :
    failure = .misuse .wrongKind := by
  cases value <;> cases failed <;> rfl

theorem pair_demands (value : Value) : Demands value.isPair value.pair := by
  unfold isPair pair
  cases result : value.items with
  | error failure =>
      rw [items_error result]
      exact .unmet rfl
  | ok items =>
      match items with
      | [] => exact .unmet rfl
      | [_] => exact .unmet rfl
      | [key, item] =>
          show Demands key.isKey (if key.isKey then .ok (key, item) else .misuse .wrongKind)
          cases key.isKey with
          | true => exact .met _
          | false => exact .unmet rfl
      | _ :: _ :: _ :: _ => exact .unmet rfl

/-- Pairs are read as entries one after the other. -/
theorem addPairs_demands (entries : Entries) (items : List Value) :
    Demands (items.all isPair) (addPairs entries items) := by
  induction items generalizing entries with
  | nil => exact .met entries
  | cons item rest ih =>
      rw [List.all_cons]
      exact (pair_demands item).bind fun entry => ih (Entries.insert entry.1 entry.2 entries)

/-- Entries can be read from a map, and from what lists pairs. -/
theorem readEntries_demands (value : Value) : Demands value.listsEntries value.readEntries := by
  have listed (items : List Value) : Demands (items.all isPair) (addPairs [] items) :=
    addPairs_demands [] items
  cases value with
  | map entries => exact .met entries
  | text text => exact listed _
  | kind kind => exact listed _
  | list items => exact listed items
  | _ => exact .unmet rfl

/-- Whether a value is an infinite number. -/
def isInfinite : Value → Bool
  | .float (.infinite _) => true
  | _ => false

end Value

namespace Config

open Attempt (Demands)

/-! ## The readings -/

/-- What cannot be read as an integer is of the wrong kind or content, unless it is infinite. -/
theorem toInteger_error {value : Value} {failure : Failure} (finite : value.isInfinite = false)
    (failed : value.toInteger = .error failure) : failure.isArgumentFault = true := by
  have readable {text : String} (failed : Value.readInteger text = .error failure) :
      failure.isArgumentFault = true := by
    unfold Value.readInteger at failed
    split at failed
    · cases failed
    · rename_i reason _
      cases failed
      cases reason <;> rfl
  cases value with
  | text text => exact readable failed
  | kind kind => exact readable failed
  | float x =>
      cases x with
      | nan =>
          cases failed
          rfl
      | infinite negative => cases finite
      | finite negative coefficient exponent => cases failed
  | bool b => cases failed
  | int n => cases failed
  | _ =>
      cases failed
      rfl

/-- A port is read, or reported as what is no integer, unless it is infinite. -/
theorem readPort_cases {port : Value} (finite : port.isInfinite = false) :
    (∃ number, readPort port = .ok number) ∨
      (∃ failure, port.toInteger = .error failure) ∧ readPort port = .report (invalidPort port) := by
  unfold readPort
  split
  · exact .inl ⟨none, rfl⟩
  · cases result : port.toInteger with
    | ok number => exact .inl ⟨some number, rfl⟩
    | error failure =>
        refine .inr ⟨⟨failure, rfl⟩, ?_⟩
        show Attempt.explaining _ (.error failure) = _
        rw [Attempt.explaining, if_pos (toInteger_error finite result)]
        rfl

theorem readPort_infinite {port : Value} (infinite : port.isInfinite = true) :
    readPort port = .misuse .tooGreat := by
  unfold Value.isInfinite at infinite
  split at infinite
  · rfl
  · cases infinite

/-- The engine that settings name. -/
def namedEngine? (settings : Entries) : Option Engine :=
  (settings.get? "driver").bind engineOfSetting?

/-- Whether the options that settings give can be listed; what counts as false lists none. -/
def optionsListed (settings : Entries) : Bool :=
  !(settings.getD "options" .null).truthy || (settings.getD "options" .null).listsEntries

theorem listedOptions_demands (settings : Entries) :
    Demands (optionsListed settings) (listedOptions settings) := by
  unfold optionsListed listedOptions
  generalize settings.getD "options" .null = options
  show Demands (!options.truthy || options.listsEntries)
    (if options.truthy then options.readEntries else .ok [])
  cases options.truthy with
  | false => exact .met []
  | true => exact options.readEntries_demands

/-! ## Reports -/

/-- What a report shows of settings can be written: the driver, and a port that is no integer. -/
structure Showable (settings : Entries) : Prop where
  driver : (settings.getD "driver" .null).isWritable = true
  port : ∀ failure, (settings.getD "port" .null).toInteger = .error failure →
    (settings.getD "port" .null).isWritable = true

/-- A failure is the report of a bad configuration: none of a driver, or one that shows the driver
or the port as it is written. -/
inductive Reported (settings : Entries) : Failure → Prop
  | unnamed (missing : settings.get? "driver" = none) :
      Reported settings (.report (.configuration "No driver specified" (.text "driver")))
  | unsupported {driver : Value} {shown : String} (given : settings.get? "driver" = some driver)
      (written : driver.written? = some shown) :
      Reported settings
        (.report (.configuration ("Unsupported driver: " ++ shown) (.text "driver")))
  | unread {shown : String} (written : (settings.getD "port" .null).written? = some shown) :
      Reported settings (.report (.configuration ("Invalid port: " ++ shown) (.text "port")))

/-! ## Making a configuration -/

theorem ofMapping_map (settings : Entries) :
    ofMapping (.map settings) =
      if settings.contains "driver" then ofSettings settings else .report noDriver := rfl

/-- Settings without the name of an engine are reported. -/
theorem ofMapping_unnamed {settings : Entries} (showable : Showable settings)
    (unnamed : namedEngine? settings = none) :
    ∃ failure, ofMapping (.map settings) = .error failure ∧ Reported settings failure := by
  have writable := showable.driver
  rw [ofMapping_map, Entries.contains, ofSettings]
  unfold namedEngine? at unnamed
  cases given : settings.get? "driver" with
  | none => exact ⟨_, rfl, .unnamed given⟩
  | some driver =>
      rw [given, Option.bind_some] at unnamed
      rw [Entries.getD, given] at writable
      simp only [unnamed]
      exact ⟨_, rfl, .unsupported given (Value.written?_of_isWritable writable)⟩

/-- Settings that name an engine make its configuration, if their options can be listed. -/
theorem ofMapping_of_engine {settings : Entries} {engine : Engine}
    (named : namedEngine? settings = some engine) :
    ofMapping (.map settings) = (listedOptions settings).bind fun listed =>
      ofEngine engine ((settings.put "options"
        (.map (listed.update (optionSettings settings)))).put "dry_run" (dryRunSetting settings)) := by
  obtain ⟨driver, given, same⟩ := Option.bind_eq_some_iff.1 named
  rw [ofMapping_map, Entries.contains, ofSettings, given]
  simp only [same]
  rfl

theorem ofEngine_ok (engine : Engine) {fields : Entries} {number : Option Int}
    (read : readPort (fields.getD "port" .null) = .ok number) :
    ∃ config, ofEngine engine fields = .ok config ∧ config.engine = engine ∧ config.port = number := by
  rw [ofEngine, read]
  exact ⟨_, rfl, rfl, rfl⟩

theorem ofEngine_error (engine : Engine) {fields : Entries} {failure : Failure}
    (failed : readPort (fields.getD "port" .null) = .error failure) :
    ofEngine engine fields = .error failure := by
  rw [ofEngine, failed]
  rfl

/-- The settings that are made for a configuration leave the port as it is. -/
theorem port_kept (settings : Entries) (options dryRun : Value) :
    ((settings.put "options" options).put "dry_run" dryRun).getD "port" .null =
      settings.getD "port" .null := by
  rw [Entries.getD, Entries.get?_put_other (by decide), Entries.get?_put_other (by decide),
    Entries.getD]

/-- A configuration is what settings ask for: it is one of the engine that they name, which is
supported, and has the port that they give, which is null or an integer. -/
structure Makes (settings : Entries) (config : Config) : Prop where
  named : namedEngine? settings = some config.engine
  supported : config.engine.name ∈ ["pg", "mysql", "sqlite"]
  port : readPort (settings.getD "port" .null) = .ok config.port
  number : config.portValue = .null ∨ ∃ number, config.portValue = .int number

theorem Makes.of_port {settings : Entries} {config : Config}
    (named : namedEngine? settings = some config.engine)
    (port : readPort (settings.getD "port" .null) = .ok config.port) : Makes settings config where
  named := named
  supported := by cases config.engine <;> decide
  port := port
  number := by
    rw [portValue]
    cases config.port with
    | none => exact .inl rfl
    | some number => exact .inr ⟨number, rfl⟩

/-- Settings make a configuration, or are reported. -/
def Answered (settings : Entries) : Prop :=
  (∃ config, ofMapping (.map settings) = .ok config ∧ Makes settings config) ∨
    ∃ failure, ofMapping (.map settings) = .error failure ∧ Reported settings failure

/-- Settings fail without a report: they name an engine, and give options that list no entries or
an infinite port. -/
def Unreported (settings : Entries) : Prop :=
  (namedEngine? settings).isSome = true ∧
    (optionsListed settings = false ∨ (settings.getD "port" .null).isInfinite = true)

theorem not_answered_of_misuse {settings : Entries} {cause : Misuse}
    (failed : ofMapping (.map settings) = .misuse cause) : ¬ Answered settings := by
  rintro (⟨config, made, -⟩ | ⟨failure, same, reported⟩)
  · rw [failed] at made
    cases made
  · rw [failed] at same
    cases same
    cases reported

/-- **Which bad settings are reported.**  Settings of any kind make the configuration that they ask
for, or are reported as a bad configuration, exactly if they do not name an engine and at the same
time give options that list no entries or an infinite port.  Settings of the last kind fail by
misuse of the options, or else of the port.  No integer in the driver, or in a port that is no
integer itself, is too long to be written. -/
theorem bad_settings_are_reported_iff {settings : Entries} (showable : Showable settings) :
    (Answered settings ↔ ¬ Unreported settings) ∧
      (Unreported settings → optionsListed settings = false →
        ∃ cause, ofMapping (.map settings) = .misuse cause ∧
          (Failure.misuse cause).isArgumentFault = true) ∧
      (Unreported settings → optionsListed settings = true →
        ofMapping (.map settings) = .misuse .tooGreat) := by
  cases named : namedEngine? settings with
  | none =>
      have reported := ofMapping_unnamed showable named
      have never : ¬ Unreported settings := by
        rintro ⟨engine, -⟩
        rw [named] at engine
        cases engine
      exact ⟨iff_of_true (.inr reported) never, fun unreported => absurd unreported never,
        fun unreported => absurd unreported never⟩
  | some engine =>
      have isNamed : (namedEngine? settings).isSome = true := by rw [named]; rfl
      have whole := ofMapping_of_engine named
      have demands := listedOptions_demands settings
      generalize listedOptions settings = given at demands whole
      generalize listed : optionsListed settings = isListed at demands
      cases demands with
      | @unmet cause fault =>
          refine ⟨iff_of_false (not_answered_of_misuse whole) (not_not.2 ⟨isNamed, .inl listed⟩),
            fun _ _ => ⟨cause, whole, fault⟩, nofun⟩
      | met options =>
          have port := port_kept settings (.map (Entries.update options (optionSettings settings)))
            (dryRunSetting settings)
          cases infinite : (settings.getD "port" .null).isInfinite with
          | true =>
              have failed : ofMapping (.map settings) = .misuse .tooGreat :=
                whole.trans (ofEngine_error engine (port ▸ readPort_infinite infinite))
              exact ⟨iff_of_false (not_answered_of_misuse failed)
                (not_not.2 ⟨isNamed, .inr infinite⟩), nofun, fun _ _ => failed⟩
          | false =>
              have never : ¬ Unreported settings := by
                rintro ⟨-, unlisted | tooGreat⟩
                · rw [listed] at unlisted
                  cases unlisted
                · rw [infinite] at tooGreat
                  cases tooGreat
              refine ⟨iff_of_true ?_ never, nofun, fun unreported => absurd unreported never⟩
              rcases readPort_cases infinite with ⟨number, read⟩ | ⟨⟨failure, unread⟩, reported⟩
              · obtain ⟨config, made, rfl, rfl⟩ := ofEngine_ok engine (port.symm ▸ read)
                exact .inl ⟨config, whole.trans made, .of_port named read⟩
              · exact .inr ⟨_, whole.trans (ofEngine_error engine (port ▸ reported)),
                  .unread (Value.written?_of_isWritable (showable.port failure unread))⟩

/-- Options that are listed as pairs make a configuration, and a text without pairs is misused. -/
theorem bad_settings_are_reported_iff_pairs :
    let paired : Entries := [(.text "driver", .text "pg"), (.text "port", .text "5432"),
      (.text "options", .list [.list [.text "sslmode", .text "require"]])]
    let unpaired : Entries := [(.text "driver", .text "pg"), (.text "options", .text "sslmode")]
    Showable paired ∧ Showable unpaired ∧ Answered paired ∧ Unreported unpaired ∧
      ∃ cause, ofMapping (.map unpaired) = .misuse cause ∧
        (Failure.misuse cause).isArgumentFault = true := by
  intro paired unpaired
  have fine : ¬ Unreported paired := by
    rintro ⟨-, unlisted | tooGreat⟩
    · cases unlisted
    · cases tooGreat
  have written : Showable paired := ⟨rfl, fun _ _ => rfl⟩
  have writtenOther : Showable unpaired := ⟨rfl, fun _ _ => rfl⟩
  have unlisted : optionsListed unpaired = false := rfl
  have unreported : Unreported unpaired := ⟨rfl, .inl unlisted⟩
  exact ⟨written, writtenOther, (bad_settings_are_reported_iff written).1.2 fine, unreported,
    (bad_settings_are_reported_iff writtenOther).2.1 unreported unlisted⟩

/-- An infinite port, and options that are a number, are not reported. -/
theorem infinite_port_is_not_reported :
    let tooGreat : Entries := [(.text "driver", .text "mysql"), (.text "port", .float (.infinite false))]
    let unlisted : Entries := [(.text "driver", .text "pg"), (.text "options", .int 5)]
    (ofMapping (.map tooGreat) = .misuse .tooGreat ∧ ¬ Answered tooGreat) ∧
      ofMapping (.map unlisted) = .misuse .wrongKind ∧ ¬ Answered unlisted :=
  ⟨⟨rfl, not_answered_of_misuse rfl⟩, rfl, not_answered_of_misuse rfl⟩

end Config

end SchemaChange
