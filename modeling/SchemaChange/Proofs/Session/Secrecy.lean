/-
# SchemaChange.Proofs.Session.Secrecy — the password goes to the client library and nowhere else

Take two sources of a session that agree apart from the password.  While connecting, both
record the same, ask the client library with the same arguments apart from the password,
and end alike: with the same failure, or with one and the same session.  A session has no
place for a password, so no later step can depend on it.

* `Alike` — two actions on the way to a session that show the same apart from the password.
* `start_alike` — from configurations that differ in their password.
* `password_is_secret` — from sources that agree apart from the password, and for every run
  behind them.
-/
import SchemaChange.Proofs.Config.Password
import SchemaChange.Proofs.Session.Opening

set_option autoImplicit false

namespace SchemaChange

/-- An event as it is seen by who may not see the password among the arguments for a client
library. -/
def Event.withoutPassword : Event → Event
  | .connect engine arguments => .connect engine arguments.withoutPassword
  | event => event

/-- Sources that agree apart from the password: two configurations, or two maps of settings. -/
inductive Source.SameButPassword : Source → Source → Prop where
  | config (config : Config) (password : Value) :
      SameButPassword (.config config) (.config (config.withPassword password))
  | settings {settings others : Entries}
      (agree : settings.withoutPassword = others.withoutPassword) :
      SameButPassword (.description (.map settings)) (.description (.map others))

namespace Connect

variable {α β : Type} {met : Surroundings} {logging : Logging}

/-- Two actions end alike and show the same apart from the password. -/
structure Alike (first second : Doing α) : Prop where
  result : (first.run ()).result = (second.run ()).result
  events : (first.run ()).events.map Event.withoutPassword
    = (second.run ()).events.map Event.withoutPassword

namespace Alike

theorem refl (act : Doing α) : Alike act act :=
  ⟨rfl, rfl⟩

theorem bind {first second : Doing α} {next later : α → Doing β} (here : Alike first second)
    (there : ∀ a, Alike (next a) (later a)) : Alike (first >>= next) (second >>= later) := by
  cases result : (first.run ()).result with
  | error failure =>
      have other := here.result.symm.trans result
      constructor
      · rw [Act.run_bind_error result, Act.run_bind_error other]
      · rw [Act.run_bind_error result, Act.run_bind_error other]
        exact here.events
  | ok a =>
      have other := here.result.symm.trans result
      constructor
      · rw [Act.run_bind_ok result, Act.run_bind_ok other]
        exact (there a).result
      · rw [Act.run_bind_ok result, Act.run_bind_ok other, List.map_append, List.map_append,
          here.events]
        exact congrArg _ (there a).events

/-- What goes on with arguments that agree apart from the password. -/
theorem lift_bind {first second : Attempt Entries} {next later : Entries → Doing β}
    (agree : first.map Entries.withoutPassword = second.map Entries.withoutPassword)
    (there : ∀ params others, params.withoutPassword = others.withoutPassword →
      Alike (next params) (later others)) :
    Alike ((liftM first : Doing Entries) >>= next) ((liftM second : Doing Entries) >>= later) := by
  rcases Attempt.map_eq_map_cases agree with
    ⟨failure, rfl, rfl⟩ | ⟨params, others, rfl, rfl, same⟩
  · constructor <;> rw [Act.run_lift_bind_error rfl, Act.run_lift_bind_error rfl]
  · have goesOn := there params others same
    constructor
    · rw [Act.run_lift_bind_ok rfl, Act.run_lift_bind_ok rfl]
      exact goesOn.result
    · rw [Act.run_lift_bind_ok rfl, Act.run_lift_bind_ok rfl]
      exact goesOn.events

end Alike

/-- A client library is asked alike, and its refusal does not name its arguments. -/
theorem callLibrary_alike (met : Surroundings) {arguments others : Entries} (engine : Engine) (target : Value)
    (agree : arguments.withoutPassword = others.withoutPassword) :
    Alike (callLibrary met engine arguments target) (callLibrary met engine others target) := by
  have textual (entries : Entries) :
      entries.withoutPassword.all (fun argument => argument.1.text?.isSome)
        = entries.all fun argument => argument.1.text?.isSome := by
    refine Entries.all_of_erase ?_ entries
    intro k value password
    rw [password]
    rfl
  unfold callLibrary
  rw [← textual arguments, agree, textual others]
  split
  · exact .refl _
  · refine .bind ⟨rfl, ?_⟩ fun _ => .refl _
    show [Event.connect engine arguments.withoutPassword]
      = [Event.connect engine others.withoutPassword]
    rw [agree]

theorem openPostgres_alike (config : Config) (password : Value) :
    Alike (openPostgres met logging (config.withPassword password))
      (openPostgres met logging config) := by
  refine .lift_bind (config.connectionParams_password password) fun params others agree => ?_
  have asked := callLibrary_alike met .postgres (.text config.describe)
    (postgresArguments_password agree)
  show Alike (if config.native.truthy then _ else _) (if config.native.truthy then _ else _)
  split
  · exact .bind (.refl _) fun _ => .bind (.refl _) fun _ => .bind asked fun _ => .refl _
  · exact .bind (.refl _) fun _ => .bind asked fun _ => .refl _

theorem openMysql_alike (config : Config) (password : Value) :
    Alike (openMysql met logging (config.withPassword password))
      (openMysql met logging config) := by
  refine .bind (.refl _) fun _ => ?_
  refine .lift_bind (mysqlArguments_password config password) fun params others agree => ?_
  exact .bind (callLibrary_alike met .mysql (.text config.describe) agree) fun _ => .refl _

theorem openNew_alike (config : Config) (password : Value) :
    Alike (openNew met logging (config.withPassword password)) (openNew met logging config) := by
  have same : (config.withPassword password).engine = config.engine := rfl
  unfold openNew
  rw [same]
  by_cases installed : isInstalled met config.engine = true
  · simp only [installed, Bool.not_true, Bool.false_eq_true, if_false]
    cases config.engine with
    | postgres => exact openPostgres_alike config password
    | mysql => exact openMysql_alike config password
    -- an SQLite database is opened by its name
    | sqlite => exact .refl _
  · simp only [installed]
    exact .refl _

/-- **Configurations that differ in their password start alike.** -/
theorem start_alike (config : Config) (password : Value) :
    Alike (start met logging (config.withPassword password)) (start met logging config) := by
  refine .bind (.refl _) fun _ => ?_
  show Alike (if config.connection.isNull then _ else _) (if config.connection.isNull then _ else _)
  split
  · exact .bind (openNew_alike config password) fun _ => .refl _
  · exact .refl _

/-- Sources that agree apart from the password are read alike, as configurations that do. -/
theorem readSource_password {first second : Source} (alike : Source.SameButPassword first second) :
    ∃ password, readSource second = (readSource first).map (Config.withPassword · password) := by
  cases alike with
  | config config password => exact ⟨password, rfl⟩
  | settings agree => exact Config.ofMapping_password agree

theorem connect_alike (met : Surroundings) (logging : Logging) {first second : Source}
    (alike : Source.SameButPassword first second) :
    Alike (connect met logging second) (connect met logging first) := by
  obtain ⟨password, read⟩ := readSource_password alike
  unfold connect
  rw [read]
  cases readSource first with
  | error failure => exact .refl _
  | ok config => exact start_alike config password

/-- **The password goes to the client library and nowhere else.**  From two sources that agree apart
from the password, meeting the same client library and answers: connecting ends with the same
failure, in all its fields, or with the same session; the records and the traffic are the same but
for the password among the arguments for the client library; and every run behind the two does,
answers and fails the same. -/
theorem password_is_secret {first second : Source} (alike : Source.SameButPassword first second)
    (met : Surroundings) (logging : Logging) :
    let here := (connect met logging first).run ()
    let there := (connect met logging second).run ()
    here.result = there.result ∧
      here.events.map Event.withoutPassword = there.events.map Event.withoutPassword ∧
      ∀ session other, here.result = .ok session → there.result = .ok other →
        ∀ steps, Session.runAll steps session = Session.runAll steps other := by
  intro here there
  have same := connect_alike met logging alike
  refine ⟨same.result.symm, same.events.symm, ?_⟩
  intro session other opened openedOther steps
  have one : Except.ok session = (Except.ok other : Attempt Session) := by
    rw [← opened, ← openedOther]
    exact same.result.symm
  rw [Except.ok.inj one]

/-- The client library gets the password, and what is seen besides is the same. -/
theorem password_is_secret_postgres :
    let settings (password : String) : Entries :=
      [(.text "driver", .text "pg"), (.text "password", .text password)]
    let connected (password : String) :=
      (connect quietSurroundings ⟨5, false⟩ (.description (.map (settings password)))).run ()
    let now : Timestamp := ⟨2024, 1, 2, 3, 4, 5, 6⟩
    let steps := [(now, Step.operation (.dropTable (.text "t") .null))]
    (settings "a").withoutPassword = (settings "b").withoutPassword ∧
      (connected "a").events
        = [.connect .postgres [(.text "password", .text "a")], .configure .postgres] ∧
      (connected "b").events
        = [.connect .postgres [(.text "password", .text "b")], .configure .postgres] ∧
      (connected "a").result = (connected "b").result ∧
      (connected "a").events.map Event.withoutPassword
        = (connected "b").events.map Event.withoutPassword ∧
      ∃ session other, (connected "a").result = .ok session ∧ (connected "b").result = .ok other ∧
        Session.runAll steps session = Session.runAll steps other := by
  intro settings connected now steps
  have agree : (settings "a").withoutPassword = (settings "b").withoutPassword := rfl
  obtain ⟨result, events, runs⟩ :=
    password_is_secret (.settings agree) quietSurroundings ⟨5, false⟩
  obtain ⟨session, opened⟩ : ∃ session, (connected "a").result = .ok session := ⟨_, rfl⟩
  have openedOther : (connected "b").result = .ok session := result.symm.trans opened
  exact ⟨agree, rfl, rfl, result, events, session, session, opened, openedOther,
    runs session session opened openedOther steps⟩

end Connect

end SchemaChange
