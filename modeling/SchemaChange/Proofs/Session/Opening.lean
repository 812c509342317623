/-
# SchemaChange.Proofs.Session.Opening — the session that connecting gives

Connecting can fail at many places, but where it gives a session the session is
determined by the configuration and the surroundings: `connect_eq_ok` says that it is
`initial`, open, and over a connection that has not been used (`initial_unused`).

* `initial_link_adapted` — a connection that is opened, or carried and of the engine's own
  client library, is in a fresh adapter.
* `Accepts.connect` — connecting follows every rule that accepts the things it does one by
  one, wherever it stops.
-/
import SchemaChange.Proofs.Act.Rule
import SchemaChange.Session.Connect

set_option autoImplicit false

namespace SchemaChange

/-- A connection over which no cursor has been made. -/
def Link.Unused : Link → Prop
  | .adapter own => own.cursor = none
  | _ => True

/-- A connection that answers the statements of an engine: the caller's own, or an adapter for the
engine. -/
def Link.Serves (engine : Engine) : Link → Prop
  | .plain _ => True
  | .adapter own => own.engine = engine
  | .bare _ => False

namespace Connect

variable {surroundings : Surroundings} {logging : Logging} {config : Config}

/-- The connection of a session from a configuration. -/
def initialLink (surroundings : Surroundings) (config : Config) : Link :=
  match config.connection with
  | .null => adapt surroundings config.engine
  | .connection .plain => .plain surroundings.plainReplies
  | .connection (.raw made) =>
      if made = config.engine ∧ isInstalled surroundings config.engine = true then
        adapt surroundings config.engine
      else .bare config.connection
  | value => .bare value

/-- The session from a configuration, if connecting gives one. -/
def initial (surroundings : Surroundings) (logging : Logging) (config : Config) : Session :=
  ⟨config.engine, config.dryRun, logging, false, initialLink surroundings config,
    surroundings.closing⟩

/-- Surroundings in which every client library is there and answers nothing beforehand. -/
def quietSurroundings : Surroundings :=
  ⟨true, none, minimumVersion, [], [], {}⟩

/-- A configuration that says nothing but the engine, the connection and whether statements are
only logged. -/
def plainConfig (engine : Engine) (connection dryRun : Value) : Config where
  engine := engine
  host := .null
  port := none
  user := .null
  password := .null
  database := .null
  native := .bool false
  connection := connection
  dryRun := dryRun
  options := .map []

/-- A session of PostgreSQL over the caller's own connection, which answers nothing beforehand. -/
def plainSession : Session :=
  initial quietSurroundings ⟨5, true⟩
    (plainConfig .postgres (.connection .plain) (.bool false))

theorem openPostgres_gives :
    (openPostgres surroundings logging config).Gives (· = adapt surroundings .postgres) := by
  refine .bind fun params => ?_
  split
  · exact .bind fun _ => .bind fun _ => .bind fun _ => .bind fun _ => .pure rfl
  · exact .bind fun _ => .bind fun _ => .bind fun _ => .pure rfl

theorem openMysql_gives :
    (openMysql surroundings logging config).Gives (· = adapt surroundings .mysql) :=
  .bind fun _ => .bind fun _ => .bind fun _ => .pure rfl

theorem openSqlite_gives :
    (openSqlite surroundings logging config).Gives (· = adapt surroundings .sqlite) := by
  refine .bind fun arguments => .bind fun _ => ?_
  split
  · exact .bind fun _ => .bind fun _ => .fail _
  · exact .bind fun _ => .bind fun _ => .pure rfl

theorem openNew_gives :
    (openNew surroundings logging config).Gives (· = adapt surroundings config.engine) := by
  unfold openNew
  split
  · exact .fail _
  · cases engine : config.engine with
    | postgres => exact openPostgres_gives
    | mysql => exact openMysql_gives
    | sqlite => exact openSqlite_gives

theorem takeOver_gives (carried : config.connection.isNull = false) :
    (takeOver surroundings config.engine config.connection).Gives
      (· = initialLink surroundings config) := by
  unfold takeOver initialLink
  split
  · rename_i plain
    rw [plain]
    exact .pure rfl
  · rename_i made raw
    rw [raw]
    by_cases own : made = config.engine ∧ isInstalled surroundings config.engine = true
    · simp only [own, and_self, if_true]
      split
      · exact .bind fun _ => .pure rfl
      · exact .pure rfl
    · simp only [own, if_false]
      exact .pure rfl
  · rename_i value notPlain notRaw
    split
    · simp_all [Value.isNull]
    · exact absurd ‹_› notPlain
    · exact absurd ‹_› (notRaw _)
    · exact .pure rfl

theorem start_gives :
    (start surroundings logging config).Gives (· = initial surroundings logging config) := by
  have rest : ∀ link, link = initialLink surroundings config →
      (do
        debug logging ("Connected to " ++ config.describe)
        pure ⟨config.engine, config.dryRun, logging, false, link, surroundings.closing⟩ :
          Doing Session).Gives (· = initial surroundings logging config) := by
    intro link same
    subst same
    exact .bind fun _ => .pure rfl
  refine .bind fun _ => ?_
  split
  · rename_i absent
    have null : config.connection = .null := by
      revert absent
      cases config.connection <;> simp [Value.isNull]
    exact .bind_of openNew_gives fun link same => rest link (by rw [same, initialLink, null])
  · rename_i carried
    exact .bind_of (takeOver_gives (by simpa using carried)) rest

/-- **Where connecting gives a session, the session is determined.** -/
theorem connect_eq_ok {source : Source} {session : Session}
    (opened : ((connect surroundings logging source).run ()).result = .ok session) :
    ∃ config, readSource source = .ok config ∧ session = initial surroundings logging config := by
  obtain ⟨config, read, started⟩ := Act.bind_eq_ok opened
  exact ⟨config, read, start_gives _ _ started⟩

/-- A configuration carries a connection of its engine's own client library, which is there. -/
def CarriesOwn (surroundings : Surroundings) (config : Config) : Prop :=
  config.connection = .connection (.raw config.engine) ∧
    isInstalled surroundings config.engine = true

/-- A session has a connection of its engine's own client library, which is opened for it or which
its configuration carries. -/
def Adapted (surroundings : Surroundings) (config : Config) : Prop :=
  config.connection = .null ∨ CarriesOwn surroundings config

/-- A connection of the engine's own client library is put into a fresh adapter. -/
theorem initial_link_adapted (logging : Logging) (adapted : Adapted surroundings config) :
    (initial surroundings logging config).link
      = .adapter (.fresh config.engine surroundings.cursorReplies) := by
  rcases adapted with absent | ⟨own, installed⟩
  · simp only [initial, initialLink, absent]
    rfl
  · simp only [initial, initialLink, own, installed, and_self, if_true]
    rfl

theorem initial_unused (surroundings : Surroundings) (logging : Logging) (config : Config) :
    (initial surroundings logging config).link.Unused := by
  unfold initial initialLink
  split
  · rfl
  · trivial
  · split
    · rfl
    · trivial
  · trivial

/-! ## What connecting does -/

/-- A rule that sequences inherit from their parts, and that holds of each thing that connecting
does: it leaves notes, asks a client library for a connection and sets it up, and closes what it
opened before it reports that the library is too old. -/
structure Accepts (logging : Logging) (rule : Act.Rule Failure Unit Event) : Prop where
  sequential : rule.Sequential
  notes : ∀ text, rule () (logging.note ⟨.debug, text⟩) none ()
  asks : ∀ engine arguments, rule () [.connect engine arguments] none ()
  configures : ∀ engine, rule () [.configure engine] none ()
  rejects : ∀ failure, rule () [.close] (some failure) ()

namespace Accepts

variable {rule : Act.Rule Failure Unit Event} {α β : Type}

theorem done (accepts : Accepts logging rule) (result : Attempt α) :
    (Act.done result : Doing α).Follows rule :=
  .done accepts.sequential result

theorem bind (accepts : Accepts logging rule) {first : Doing α} {next : α → Doing β}
    (here : first.Follows rule) (there : ∀ a, (next a).Follows rule) :
    (first >>= next).Follows rule :=
  .bind accepts.sequential here there

theorem debug (accepts : Accepts logging rule) (text : String) :
    (debug logging text).Follows rule :=
  fun _ => accepts.notes text

theorem configure (accepts : Accepts logging rule) (engine : Engine) :
    (Act.emit [.configure engine] : Doing Unit).Follows rule :=
  fun _ => accepts.configures engine

theorem callLibrary (accepts : Accepts logging rule) (engine : Engine) (arguments : Entries)
    (target : Value) : (callLibrary surroundings engine arguments target).Follows rule := by
  unfold Connect.callLibrary
  split
  · exact accepts.done _
  · refine accepts.bind (fun _ => accepts.asks engine arguments) fun _ => ?_
    split
    · exact accepts.done _
    · split
      · exact accepts.done _
      · exact accepts.done _

theorem openPostgres (accepts : Accepts logging rule) :
    (openPostgres surroundings logging config).Follows rule := by
  refine accepts.bind (accepts.done _) fun params => ?_
  have rest : (do
      Connect.debug logging ("Connecting to PostgreSQL: " ++ config.describe)
      Connect.callLibrary surroundings .postgres (postgresArguments params) (.text config.describe)
      Act.emit [.configure .postgres]
      pure (adapt surroundings .postgres) : Doing Link).Follows rule :=
    accepts.bind (accepts.debug _) fun _ =>
      accepts.bind (accepts.callLibrary _ _ _) fun _ =>
        accepts.bind (accepts.configure _) fun _ => accepts.done _
  split
  · exact accepts.bind (accepts.debug _) fun _ => rest
  · exact rest

theorem openMysql (accepts : Accepts logging rule) :
    (openMysql surroundings logging config).Follows rule :=
  accepts.bind (accepts.debug _) fun _ =>
    accepts.bind (accepts.done _) fun _ =>
      accepts.bind (accepts.callLibrary _ _ _) fun _ => accepts.done _

theorem openSqlite (accepts : Accepts logging rule) :
    (openSqlite surroundings logging config).Follows rule := by
  refine accepts.bind (accepts.done _) fun arguments =>
    accepts.bind (accepts.callLibrary _ _ _) fun _ => ?_
  split
  · -- Whether or not the connection can be closed, there is no session.
    intro state
    rw [Act.run_emit_bind]
    unfold Closing.outcome
    cases surroundings.closing.connectionError with
    | none => exact accepts.rejects _
    | some message => exact accepts.rejects _
  · exact accepts.bind (accepts.debug _) fun _ =>
      accepts.bind (accepts.configure _) fun _ => accepts.done _

theorem openNew (accepts : Accepts logging rule) :
    (openNew surroundings logging config).Follows rule := by
  unfold Connect.openNew
  split
  · exact accepts.done _
  · cases config.engine with
    | postgres => exact accepts.openPostgres
    | mysql => exact accepts.openMysql
    | sqlite => exact accepts.openSqlite

theorem takeOver (accepts : Accepts logging rule) (engine : Engine) (connection : Value) :
    (takeOver surroundings engine connection).Follows rule := by
  unfold Connect.takeOver
  split
  · exact accepts.done _
  · split
    · split
      · exact accepts.bind (accepts.configure _) fun _ => accepts.done _
      · exact accepts.done _
    · exact accepts.done _
  · exact accepts.done _

/-- **Connecting follows every rule that accepts what it does.** -/
theorem connect (accepts : Accepts logging rule) (surroundings : Surroundings) (source : Source) :
    (connect surroundings logging source).Follows rule := by
  refine accepts.bind (accepts.done _) fun config =>
    accepts.bind (accepts.debug _) fun _ => ?_
  have rest : ∀ link, (do
      Connect.debug logging ("Connected to " ++ config.describe)
      pure ⟨config.engine, config.dryRun, logging, false, link, surroundings.closing⟩ :
        Doing Session).Follows rule := fun link =>
    accepts.bind (accepts.debug _) fun _ => accepts.done _
  split
  · exact accepts.bind accepts.openNew rest
  · exact accepts.bind (accepts.takeOver _ _) rest

end Accepts

end Connect

end SchemaChange
