/-
# SchemaChange.Proofs.Session.Preview — a dry run records what a live run would

A dry run answers null to a statement and no rows to a query, and a live run answers
what its connection answers.  The two take the same way as long as the connection
succeeds without rows, because no operation looks at a native result while it still has
statements to submit: `Script.Alike` relates two scripts that ask for the same
statements, one told that it is a dry run and the other that it is not, and
`Operation.script_alike` says that the script of every operation is like itself.

* `submit_rehearses` — a statement goes the same way in both sessions.
* `perform_rehearses`, `runAll_rehearses` — so do scripts and runs, record by record.
* `dry_run_previews_live_run` — the two statement logs of sessions that connecting
  gives, and the renaming of a column, whose two endings differ.
-/
import SchemaChange.Proofs.Operation.Statements
import SchemaChange.Proofs.Session.DryRun

set_option autoImplicit false

namespace SchemaChange

/-- Whether an event is a record of the statement log. -/
def Event.isRecord : Event → Bool
  | .statement _ | .parameters _ => true
  | _ => false

/-- The records of the statement log among events, in order. -/
def records (events : List Event) : List Event :=
  events.filter Event.isRecord

@[simp] theorem records_append (first rest : List Event) :
    records (first ++ rest) = records first ++ records rest := by
  simp only [records, List.filter_append]

/-- A reply that answers, and answers without rows. -/
def PlainReply.IsRowless : PlainReply → Prop
  | .answer value => Statement.normalizeRows value = .ok []
  | .refusal .. | .breakdown _ => False

/-! ## Scripts that ask for the same statements -/

namespace Script

variable {α : Type}

/-- Two scripts ask for the same statements: whatever native results each of them is given, as long
as queries give no rows, and the first one being told that it is a dry run and the second one that
it is not.  They may leave different notes and end differently. -/
inductive Alike : Script α → Script α → Prop
  | done (first second : Attempt α) : Alike (.done first) (.done second)
  | noteFirst (n : Note) {first second : Script α} (later : Alike first second) :
      Alike (.note n first) second
  | noteSecond (n : Note) {first second : Script α} (later : Alike first second) :
      Alike first (.note n second)
  | submit {template params : Value} {first second : Value → Script α}
      (later : ∀ value other, Alike (first value) (second other)) :
      Alike (.submit template params first) (.submit template params second)
  | fetch {template params : Value} {first second : List Statement.Row → Script α}
      (later : Alike (first []) (second [])) :
      Alike (.fetch template params first) (.fetch template params second)
  | askDryRun {first second : Bool → Script α} (later : Alike (first true) (second false)) :
      Alike (.askDryRun first) (.askDryRun second)

namespace Alike

theorem notes (notes : List Note) {first second : Script α} (later : Alike first second) :
    Alike (Script.notes notes first) (Script.notes notes second) := by
  induction notes with
  | nil => exact later
  | cons n notes ih => exact .noteFirst n (.noteSecond n ih)

/-- A plan goes through its statements whatever they give. -/
theorem plan (statements : List String) :
    Alike (Script.runAll statements) (Script.runAll statements) := by
  induction statements with
  | nil => exact .done _ _
  | cons statement rest ih =>
      cases rest with
      | nil => exact .submit fun _ _ => .done _ _
      | cons next rest =>
          rw [Script.runAll_cons]
          exact .submit fun _ _ => ih

theorem ofStatements (rendering : Noted (List String)) :
    Alike (Script.ofStatements rendering) (Script.ofStatements rendering) := by
  cases rendered : rendering.result with
  | ok plan =>
      rw [Script.ofStatements_of_ok rendered]
      exact .notes _ (.plan plan)
  | error failure =>
      rw [Script.ofStatements_of_error rendered]
      exact .notes _ (.done _ _)

end Alike

end Script

/-- The migrations table is created if the catalog lists nothing, in the way of a server of unknown
version. -/
theorem Engine.createMigrationsTable_alike (engine : Engine) :
    Script.Alike engine.createMigrationsTable engine.createMigrationsTable := by
  have create (mayExist : Bool) : Script.Alike
      (Script.runRendered (engine.createTable (.text migrationsTable)
        (migrationsTableOptions mayExist).toValue))
      (Script.runRendered (engine.createTable (.text migrationsTable)
        (migrationsTableOptions mayExist).toValue)) := by
    rw [Script.runRendered_eq]
    exact .ofStatements _
  cases engine with
  | postgres => exact .fetch (.fetch (create false))
  | mysql => exact .fetch (create true)
  | sqlite => exact .fetch (create true)

/-- **The script of every operation asks for the same statements in a dry run and without rows.** -/
theorem Operation.script_alike (engine : Engine) (now : Timestamp) (operation : Operation) :
    Script.Alike (operation.script engine now) (operation.script engine now) := by
  cases renders : operation.statements? engine with
  | some rendering =>
      rw [Operation.script_eq_statements renders]
      exact .ofStatements rendering
  | none =>
      cases operation with
      | renameColumn table column newColumn =>
          cases engine with
          | mysql => exact .fetch (.askDryRun (.noteFirst _ (.done _ _)))
          | postgres => cases renders
          | sqlite => cases renders
      | createMigrationsTable => exact engine.createMigrationsTable_alike
      | addMigrationRecord name => exact .submit fun _ _ => .done _ _
      | loadedMigrations => exact .fetch (.done _ _)
      | run template params => exact .submit fun _ _ => .done _ _
      | query template params => exact .fetch (.done _ _)
      | startMigration =>
          cases engine with
          | postgres => exact .submit fun _ _ => .done _ _
          | mysql => exact .done _ _
          | sqlite => exact .done _ _
      | endMigration =>
          cases engine with
          | postgres => exact .submit fun _ _ => .done _ _
          | mysql => exact .done _ _
          | sqlite => exact .done _ _
      | quote identifier => exact .done _ _
      | _ => cases renders

/-! ## A dry run beside a live one -/

namespace Session

variable {α : Type} {dry live : Session}

/-- The first session is a dry run of what the second one does over a connection of the caller's
own that succeeds without rows. -/
structure Rehearses (dry live : Session) : Prop where
  isDry : dry.dryRun.truthy = true
  isLive : live.dryRun.truthy = false
  opened : live.closed = false
  engine : dry.engine = live.engine
  logging : dry.logging = live.logging
  rowless : ∃ replies, live.link = .plain replies ∧ ∀ reply ∈ replies, reply.IsRowless

theorem records_note (logging : Logging) (n : Note) : records (logging.note n) = [] := by
  unfold Logging.note
  split <;> rfl

/-- Two outcomes record the same and leave a dry run beside the live one. -/
def InStep {α : Type} (first second : Outcome Failure Session Event α) : Prop :=
  records first.events = records second.events ∧ Rehearses first.state second.state

/-- The caller's own connection, if it succeeds without rows, takes a statement and goes on so. -/
theorem handle_rowless (pair : Rehearses dry live) (sql : String) (values : Option (List Value)) :
    ∃ value, (live.handle sql values).result = .ok value ∧
      Statement.normalizeRows value = .ok [] ∧
      records (live.handle sql values).events = [] ∧
      Rehearses dry (live.handle sql values).state := by
  obtain ⟨replies, plain, rowless⟩ := pair.rowless
  rw [handle_open pair.isLive pair.opened, plain]
  cases replies with
  | nil =>
      exact ⟨Link.emptyResult, rfl, rfl, rfl, pair.isDry, pair.isLive, pair.opened, pair.engine,
        pair.logging, [], rfl, rowless⟩
  | cons reply rest =>
      have here := rowless reply List.mem_cons_self
      cases reply with
      | answer value =>
          exact ⟨value, rfl, here, rfl, pair.isDry, pair.isLive, pair.opened, pair.engine,
            pair.logging, rest, rfl, fun other member => rowless other (List.mem_cons_of_mem _ member)⟩
      | refusal message engineName => cases here
      | breakdown message => cases here

/-- A statement that can be prepared and whose parameters can be listed is answered in both. -/
theorem submit_answers (pair : Rehearses dry live) {template params : Value} {sql : String}
    {values : Option (List Value)}
    (prepared : Statement.prepare dry.engine.dialect template params = .ok sql)
    (listed : parameterValues params = .ok values) :
    InStep ((submit template params).run dry) ((submit template params).run live) ∧
      ((submit template params).run dry).result = .ok .null ∧
      ∃ value, ((submit template params).run live).result = .ok value ∧
        Statement.normalizeRows value = .ok [] := by
  obtain ⟨value, answered, none, silent, still⟩ := handle_rowless pair sql values
  rw [run_submit_announced prepared listed, handle_dry pair.isDry,
    run_submit_announced (pair.engine ▸ prepared) listed]
  refine ⟨⟨?_, still⟩, rfl, value, answered, none⟩
  rw [records_append, records_append, silent, pair.logging]
  rfl

/-- **A statement goes the same way in both sessions**: it is refused for the same reason, or it is
answered, with null and with an answer without rows. -/
theorem submit_rehearses (pair : Rehearses dry live) (template params : Value) :
    InStep ((submit template params).run dry) ((submit template params).run live) ∧
      ((∃ failure, ((submit template params).run dry).result = .error failure ∧
          ((submit template params).run live).result = .error failure) ∨
        ((submit template params).run dry).result = .ok .null ∧
          ∃ value, ((submit template params).run live).result = .ok value ∧
            Statement.normalizeRows value = .ok []) := by
  rcases submit_cases template params dry with
    ⟨failure, prepared, run⟩ | ⟨sql, failure, prepared, unlisted, run⟩ | ⟨sql, values, prepared, listed, -⟩
  · rw [run, run_submit_unprepared (pair.engine ▸ prepared)]
    exact ⟨⟨rfl, pair⟩, .inl ⟨failure, rfl, rfl⟩⟩
  · rw [run, run_submit_unlisted (pair.engine ▸ prepared) unlisted, pair.logging, Logging.record,
      List.append_nil]
    exact ⟨⟨rfl, pair⟩, .inl ⟨failure, rfl, rfl⟩⟩
  · obtain ⟨together, answers⟩ := submit_answers pair prepared listed
    exact ⟨together, .inr answers⟩

/-- A query goes the same way in both sessions: it is refused for the same reason or has no rows. -/
theorem fetch_rehearses (pair : Rehearses dry live) (template params : Value) :
    InStep ((fetch template params).run dry) ((fetch template params).run live) ∧
      ((∃ failure, ((fetch template params).run dry).result = .error failure ∧
          ((fetch template params).run live).result = .error failure) ∨
        ((fetch template params).run dry).result = .ok [] ∧
          ((fetch template params).run live).result = .ok []) := by
  obtain ⟨together, ⟨failure, refusedDry, refusedLive⟩ | ⟨null, value, answered, none⟩⟩ :=
    submit_rehearses pair template params
  · rw [run_fetch, run_fetch, Act.run_bind_error refusedDry, Act.run_bind_error refusedLive]
    exact ⟨together, .inl ⟨failure, rfl, rfl⟩⟩
  · rw [run_fetch, run_fetch, Act.run_bind_ok null, Act.run_bind_ok answered]
    simp only [Act.run_lift, List.append_nil]
    exact ⟨together, .inr ⟨rfl, none⟩⟩

/-- What goes on in step after records that are the same is in step. -/
theorem InStep.after {first second : Outcome Failure Session Event α} {events others : List Event}
    (same : records events = records others) (later : InStep first second) :
    InStep ⟨first.result, events ++ first.events, first.state⟩
      ⟨second.result, others ++ second.events, second.state⟩ :=
  ⟨by rw [records_append, records_append, same, later.1], later.2⟩

/-- **Scripts that ask for the same statements record the same** in a dry run and without rows. -/
theorem perform_rehearses {first second : Script α} (alike : Script.Alike first second)
    (pair : Rehearses dry live) : InStep ((perform first).run dry) ((perform second).run live) := by
  induction alike generalizing dry live with
  | done first second => exact ⟨rfl, pair⟩
  | noteFirst n later ih =>
      obtain ⟨same, still⟩ := ih pair
      rw [perform, Act.run_bind_ok (by rfl), run_note]
      exact ⟨by rw [records_append, records_note, List.nil_append, same], still⟩
  | noteSecond n later ih =>
      obtain ⟨same, still⟩ := ih pair
      rw [perform, Act.run_bind_ok (by rfl), run_note]
      exact ⟨by rw [records_append, records_note, List.nil_append, same], still⟩
  | @submit template params first second later ih =>
      obtain ⟨⟨same, still⟩, ⟨failure, refusedDry, refusedLive⟩ | ⟨null, value, answered, -⟩⟩ :=
        submit_rehearses pair template params
      · rw [perform, perform, Act.run_bind_error refusedDry, Act.run_bind_error refusedLive]
        exact ⟨same, still⟩
      · rw [perform, perform, Act.run_bind_ok null, Act.run_bind_ok answered]
        exact .after same (ih .null value still)
  | @fetch template params first second later ih =>
      obtain ⟨⟨same, still⟩, ⟨failure, refusedDry, refusedLive⟩ | ⟨noneDry, noneLive⟩⟩ :=
        fetch_rehearses pair template params
      · rw [perform, perform, Act.run_bind_error refusedDry, Act.run_bind_error refusedLive]
        exact ⟨same, still⟩
      · rw [perform, perform, Act.run_bind_ok noneDry, Act.run_bind_ok noneLive]
        exact .after same (ih still)
  | askDryRun later ih =>
      simp only [perform, Act.run_get_bind, pair.isDry, pair.isLive]
      exact ih pair

/-- A step other than a close records the same in both sessions. -/
theorem step_rehearses (pair : Rehearses dry live) (now : Timestamp) {next : Step}
    (notClose : next ≠ .close) : InStep ((step now next).run dry) ((step now next).run live) := by
  cases next with
  | close => exact absurd rfl notClose
  | operation operation =>
      rw [run_step_operation, run_step_operation, pair.engine]
      exact perform_rehearses (operation.script_alike live.engine now) pair
  | expireCursor =>
      obtain ⟨replies, plain, rowless⟩ := pair.rowless
      rw [run_step_expireCursor, run_step_expireCursor, plain]
      exact ⟨rfl, pair.isDry, pair.isLive, pair.opened, pair.engine, pair.logging, replies, rfl,
        rowless⟩

/-- The statement log of a run, step by step. -/
def log (steps : List (Timestamp × Step)) (session : Session) : List (List Event) :=
  (runAll steps session).1.map fun outcome => records outcome.events

/-- A run without a close records the same in both sessions, step by step. -/
theorem runAll_rehearses (pair : Rehearses dry live) {steps : List (Timestamp × Step)}
    (notClose : ∀ timed ∈ steps, timed.2 ≠ .close) :
    log steps dry = log steps live ∧ Rehearses (runAll steps dry).2 (runAll steps live).2 := by
  induction steps generalizing dry live with
  | nil => exact ⟨rfl, pair⟩
  | cons head rest ih =>
      obtain ⟨now, next⟩ := head
      obtain ⟨same, still⟩ := step_rehearses pair now (notClose _ List.mem_cons_self)
      obtain ⟨others, last⟩ := ih still fun timed member => notClose timed (List.mem_cons_of_mem _ member)
      refine ⟨?_, last⟩
      unfold log at others ⊢
      rw [runAll, runAll, List.map_cons, List.map_cons, same, others]

/-! ## A column that the catalog does not list -/

/-- Nothing that the library asks for with parameters is refused, and nothing has rows. -/
theorem fetch_text_rehearses (pair : Rehearses dry live) (text : String) (values : List Value) :
    ((fetch (.text text) (.list values)).run dry).result = .ok [] ∧
      ((fetch (.text text) (.list values)).run live).result = .ok [] := by
  have isText : (Value.text text).text? = some text := rfl
  have listable : Listable (.list values) := fun _ => ⟨values, rfl⟩
  obtain ⟨sql, prepared⟩ := Statement.prepare_of_text dry.engine isText (.list values)
  obtain ⟨given, listed⟩ := parameterValues_of_listable listable
  obtain ⟨-, null, value, answered, none⟩ := submit_answers pair prepared listed
  rw [run_fetch, run_fetch, Act.run_bind_ok null, Act.run_bind_ok answered]
  exact ⟨rfl, none⟩

/-- MySQL skips the renaming of a column that the catalog does not list in a dry run, and reports
that there is no such column otherwise. -/
theorem rename_unlisted {session : Session} (mysql : session.engine = .mysql) (now : Timestamp)
    {table column : Value} (newColumn : Value)
    (unlisted : ((fetch (.text Engine.columnTypeQuery) (.list [table, column])).run session).result
      = .ok []) :
    ((step now (.operation (.renameColumn table column newColumn))).run session).result =
      if session.dryRun.truthy then .ok .null
      else .error (Engine.columnNotFound .mysql table column) := by
  have kept : ((fetch (.text Engine.columnTypeQuery) (.list [table, column])).run
      session).state.dryRun = session.dryRun := by
    rw [fetch_framed]
  rw [run_step_operation, mysql]
  show ((fetch (.text Engine.columnTypeQuery) (.list [table, column]) >>= fun rows =>
    perform ((pure rows : Script (List Statement.Row)).bind _)).run session).result = _
  rw [Act.run_bind_ok unlisted]
  show ((Act.get >>= fun found : Session =>
    perform ((pure found.dryRun.truthy : Script Bool).bind _)).run _).result = _
  rw [Act.run_get_bind, kept]
  cases session.dryRun.truthy <;> rfl

/-- What connecting gives for a dry run, and over a connection of the caller's own that succeeds
without rows. -/
theorem initial_rehearses (dryMet : Surroundings) {liveMet : Surroundings}
    {dryConfig liveConfig : Config} (logging : Logging) (isDry : dryConfig.dryRun.truthy = true)
    (isLive : liveConfig.dryRun.truthy = false) (engine : dryConfig.engine = liveConfig.engine)
    (plain : liveConfig.connection = .connection .plain)
    (rowless : ∀ reply ∈ liveMet.plainReplies, reply.IsRowless) :
    Rehearses (Connect.initial dryMet logging dryConfig)
      (Connect.initial liveMet logging liveConfig) where
  isDry := isDry
  isLive := isLive
  opened := rfl
  engine := engine
  logging := rfl
  rowless := ⟨liveMet.plainReplies, by rw [Connect.initial, Connect.initialLink, plain], rowless⟩

/-- **A dry run previews the live run.**  Over every run without a close, the statement log of a
session whose configuration asks for a dry run is, step by step, that of a session of the same
engine over a connection of the caller's own that answers every statement without rows.  The two
do not end alike: wherever the run stands, MySQL answers null to the renaming of a column in the
dry run, and reports in the live one that there is no such column. -/
theorem dry_run_previews_live_run {dryMet liveMet : Surroundings} {logging : Logging}
    {drySource liveSource : Source} {dryConfig liveConfig : Config} {dry live : Session}
    (readDry : Connect.readSource drySource = .ok dryConfig)
    (readLive : Connect.readSource liveSource = .ok liveConfig)
    (engine : dryConfig.engine = liveConfig.engine) (isDry : dryConfig.dryRun.truthy = true)
    (isLive : liveConfig.dryRun.truthy = false)
    (plain : liveConfig.connection = .connection .plain)
    (rowless : ∀ reply ∈ liveMet.plainReplies, reply.IsRowless)
    (openedDry : ((Connect.connect dryMet logging drySource).run ()).result = .ok dry)
    (openedLive : ((Connect.connect liveMet logging liveSource).run ()).result = .ok live)
    (steps : List (Timestamp × Step)) (notClose : ∀ timed ∈ steps, timed.2 ≠ .close) :
    log steps dry = log steps live ∧
      ∀ now table column newColumn, liveConfig.engine = .mysql →
        ((step now (.operation (.renameColumn table column newColumn))).run
            (runAll steps dry).2).result = .ok .null ∧
          ((step now (.operation (.renameColumn table column newColumn))).run
            (runAll steps live).2).result = .error (Engine.columnNotFound .mysql table column) := by
  obtain ⟨foundDry, sameDry, rfl⟩ := Connect.connect_eq_ok openedDry
  obtain ⟨foundLive, sameLive, rfl⟩ := Connect.connect_eq_ok openedLive
  obtain rfl : dryConfig = foundDry := by rw [readDry] at sameDry; cases sameDry; rfl
  obtain rfl : liveConfig = foundLive := by rw [readLive] at sameLive; cases sameLive; rfl
  have start := initial_rehearses dryMet logging isDry isLive engine plain rowless
  obtain ⟨same, still⟩ := runAll_rehearses start notClose
  refine ⟨same, ?_⟩
  intro now table column newColumn mysql
  have kind : (runAll steps (Connect.initial liveMet logging liveConfig)).2.engine = .mysql := by
    rw [runAll_closed]
    exact mysql
  obtain ⟨noneDry, noneLive⟩ := fetch_text_rehearses still Engine.columnTypeQuery [table, column]
  rw [rename_unlisted (still.engine.trans kind) now newColumn noneDry,
    rename_unlisted kind now newColumn noneLive, still.isDry, still.isLive]
  exact ⟨rfl, rfl⟩

/-- A connection of the caller's own that answers null, and then an empty result. -/
def rowlessSurroundings : Surroundings :=
  { Connect.quietSurroundings with
    plainReplies := [.answer .null, .answer (.result (.list []) 0)] }

theorem dry_run_previews_live_run_mysql :
    let dryConfig := Connect.plainConfig .mysql .null (.bool true)
    let liveConfig := Connect.plainConfig .mysql (.connection .plain) (.bool false)
    let dry := Connect.initial Connect.quietSurroundings ⟨5, true⟩ dryConfig
    let live := Connect.initial rowlessSurroundings ⟨5, true⟩ liveConfig
    let now : Timestamp := ⟨2024, 1, 2, 3, 4, 5, 6⟩
    let steps := [(now, Step.operation .createMigrationsTable),
      (now, Step.operation (.addMigrationRecord (.text "first")))]
    Connect.readSource (.config dryConfig) = .ok dryConfig ∧
      Connect.readSource (.config liveConfig) = .ok liveConfig ∧
      dryConfig.engine = liveConfig.engine ∧ dryConfig.dryRun.truthy = true ∧
      liveConfig.dryRun.truthy = false ∧ liveConfig.connection = .connection .plain ∧
      (∀ reply ∈ rowlessSurroundings.plainReplies, reply.IsRowless) ∧
      ((Connect.connect Connect.quietSurroundings ⟨5, true⟩ (.config dryConfig)).run ()).result
        = .ok dry ∧
      ((Connect.connect rowlessSurroundings ⟨5, true⟩ (.config liveConfig)).run ()).result
        = .ok live ∧
      (∀ timed ∈ steps, timed.2 ≠ .close) ∧
      log steps dry = log steps live ∧
      ((step now (.operation (.renameColumn (.text "t") (.text "a") (.text "b")))).run
        (runAll steps live).2).result
          = .error (Engine.columnNotFound .mysql (.text "t") (.text "a")) := by
  intro dryConfig liveConfig dry live now steps
  have rowless : ∀ reply ∈ rowlessSurroundings.plainReplies, reply.IsRowless := by
    intro reply member
    rcases List.mem_cons.1 member with rfl | member
    · rfl
    · rw [List.mem_singleton.1 member]
      rfl
  have readDry : Connect.readSource (.config dryConfig) = .ok dryConfig := rfl
  have readLive : Connect.readSource (.config liveConfig) = .ok liveConfig := rfl
  have openedDry : ((Connect.connect Connect.quietSurroundings ⟨5, true⟩
      (.config dryConfig)).run ()).result = .ok dry := rfl
  have openedLive : ((Connect.connect rowlessSurroundings ⟨5, true⟩
      (.config liveConfig)).run ()).result = .ok live := rfl
  have notClose : ∀ timed ∈ steps, timed.2 ≠ .close := by
    intro timed member
    rcases List.mem_cons.1 member with rfl | member
    · exact Step.noConfusion
    · rw [List.mem_singleton.1 member]
      exact Step.noConfusion
  obtain ⟨same, endings⟩ := dry_run_previews_live_run readDry readLive rfl rfl rfl rfl rowless openedDry
    openedLive steps notClose
  exact ⟨readDry, readLive, rfl, rfl, rfl, rfl, rowless, openedDry, openedLive, notClose, same,
    (endings now _ _ _ rfl).2⟩

end Session

end SchemaChange
