/-
# SchemaChange.Proofs.Session.Ownership — connecting owns one connection or none

On the way to a session a connection may be opened, and many things can fail before and after.
What happens is cut at the places where a client library is asked for a connection and where one is
closed (`Opened`): the library is not asked at all, or it refuses, or what it opens is closed again
since its version is too old, or what it opens is given to the session.

* `versionBefore_iff` — versions are compared by the first number in which they differ.
* `openNew_opens` — the four ways in which a connection is opened.
* `connect_cases` — these, and the connection that a configuration carries.
* `connecting_owns_one_connection_or_none` — a session has the connection that was carried or the
  only one that was opened, and a failure leaves none open.
-/
import SchemaChange.Proofs.Session.Closing

set_option autoImplicit false

namespace SchemaChange

/-- Whether an event asks a client library for a connection. -/
def Event.isConnect : Event → Bool
  | .connect .. => true
  | _ => false

namespace Connect

variable {α β : Type} {surroundings : Surroundings} {logging : Logging} {config : Config}
  {engine : Engine} {events : List Event}

/-- A version comes before another if it is less in the first number in which they differ. -/
theorem versionBefore_iff (first second : List Int) :
    versionBefore first second = true ↔ List.Lex (· < ·) first second := by
  induction first generalizing second with
  | nil =>
      cases second with
      | nil => simp [versionBefore]
      | cons b others => simp [versionBefore]
  | cons a rest ih =>
      cases second with
      | nil => simp [versionBefore]
      | cons b others => simp [versionBefore, ih, List.cons_lex_cons_iff]

/-! ## Connections that are open -/

/-- The connections that are open after an event. -/
def openAfterEvent (surroundings : Surroundings) (count : Nat) : Event → Nat
  | .connect .. => if surroundings.refusal.isNone then count + 1 else count
  | .close => count - 1
  | _ => count

/-- The connections that are open after events, where a client library opens one when it is asked
and does not refuse. -/
def openAfter (surroundings : Surroundings) (events : List Event) : Nat :=
  events.foldl (openAfterEvent surroundings) 0

/-- Events by which no connection is opened or closed. -/
def Quiet (events : List Event) : Prop :=
  ∀ event ∈ events, event.isConnect = false ∧ event.isClose = false

theorem Quiet.nil : Quiet [] :=
  fun _ member => nomatch member

theorem Quiet.append {first rest : List Event} (here : Quiet first) (there : Quiet rest) :
    Quiet (first ++ rest) :=
  List.forall_mem_append.2 ⟨here, there⟩

theorem Quiet.filter (quiet : Quiet events) : events.filter Event.isConnect = [] := by
  rw [List.filter_eq_nil_iff]
  intro event member
  simp [(quiet event member).1]

theorem Quiet.foldl (quiet : Quiet events) (count : Nat) :
    events.foldl (openAfterEvent surroundings) count = count := by
  induction events with
  | nil => rfl
  | cons event rest ih =>
      obtain ⟨⟨noConnect, noClose⟩, quiet⟩ := List.forall_mem_cons.1 quiet
      have same : openAfterEvent surroundings count event = count := by
        cases event with
        | connect engine arguments => cases noConnect
        | close => cases noClose
        | _ => rfl
      rw [List.foldl_cons, same, ih quiet]

theorem Quiet.openAfter_append {rest : List Event} (quiet : Quiet events) :
    openAfter surroundings (events ++ rest) = openAfter surroundings rest := by
  rw [openAfter, List.foldl_append, quiet.foldl]
  rfl

/-- No connection is opened or closed. -/
def Still : Act.Rule Failure Unit Event :=
  fun _ events _ _ => Quiet events

theorem still_sequential : Still.Sequential where
  still _ _ := Quiet.nil
  append := Quiet.append

theorem debug_still (logging : Logging) (text : String) : (debug logging text).Follows Still := by
  intro _ event member
  have note : event ∈ logging.note ⟨.debug, text⟩ := member
  rw [Logging.note] at note
  split at note
  · rw [List.mem_singleton.1 note]
    exact ⟨rfl, rfl⟩
  · cases note

theorem configure_still (engine : Engine) :
    (Act.emit [.configure engine] : Doing Unit).Follows Still := by
  intro _ event member
  rw [List.mem_singleton.1 member]
  exact ⟨rfl, rfl⟩

/-- A client library is not asked for a connection, or refuses, or opens one. -/
theorem callLibrary_cases (surroundings : Surroundings) (engine : Engine) (arguments : Entries)
    (target : Value) :
    (∃ failure, (callLibrary surroundings engine arguments target).run () =
        ⟨.error failure, [], ()⟩) ∨
      (surroundings.refusal ≠ none ∧ ∃ failure,
        (callLibrary surroundings engine arguments target).run () =
          ⟨.error failure, [.connect engine arguments], ()⟩) ∨
      surroundings.refusal = none ∧
        (callLibrary surroundings engine arguments target).run () =
          ⟨.ok (), [.connect engine arguments], ()⟩ := by
  unfold callLibrary
  split
  · exact .inl ⟨_, rfl⟩
  · rw [Act.run_emit_bind]
    cases surroundings.refusal with
    | none => exact .inr (.inr ⟨rfl, rfl⟩)
    | some text =>
        refine .inr (.inl ⟨nofun, ?_⟩)
        cases target.text? with
        | none => exact ⟨_, rfl⟩
        | some shown => exact ⟨_, rfl⟩

/-! ## The ways in which a connection is opened -/

/-- How an action ends that may open a connection, cut where a client library is asked for one. -/
inductive Opened (surroundings : Surroundings) (engine : Engine) :
    Attempt α → List Event → Prop
  | unasked {failure : Failure} {events : List Event} (quiet : Quiet events) :
      Opened surroundings engine (.error failure) events
  | refused {failure : Failure} {before : List Event} {arguments : Entries}
      (refuses : surroundings.refusal ≠ none) (quiet : Quiet before) :
      Opened surroundings engine (.error failure) (before ++ [.connect engine arguments])
  | rejected {before : List Event} {arguments : Entries} (sqlite : engine = .sqlite)
      (accepts : surroundings.refusal = none) (old : isTooOld surroundings.sqliteVersion = true)
      (quiet : Quiet before) :
      Opened surroundings engine (.error (.report (tooOld surroundings.sqliteVersion)))
        (before ++ [.connect engine arguments, .close])
  | given {a : α} {before after : List Event} {arguments : Entries}
      (accepts : surroundings.refusal = none)
      (recent : engine = .sqlite → isTooOld surroundings.sqliteVersion = false)
      (quiet : Quiet before) (later : Quiet after) :
      Opened surroundings engine (.ok a) (before ++ .connect engine arguments :: after)

theorem Opened.behind {result : Attempt α} {before : List Event} (quiet : Quiet before)
    (opened : Opened surroundings engine result events) :
    Opened surroundings engine result (before ++ events) := by
  cases opened with
  | unasked others => exact .unasked (quiet.append others)
  | refused refuses others =>
      rw [← List.append_assoc]
      exact .refused refuses (quiet.append others)
  | rejected sqlite accepts old others =>
      rw [← List.append_assoc]
      exact .rejected sqlite accepts old (quiet.append others)
  | given accepts recent others later =>
      rw [← List.append_assoc]
      exact .given accepts recent (quiet.append others) later

/-- What failed has failed, whatever was to come of it. -/
theorem Opened.failed {failure : Failure}
    (opened : Opened surroundings engine (.error failure : Attempt α) events) :
    Opened surroundings engine (.error failure : Attempt β) events := by
  cases opened with
  | unasked quiet => exact .unasked quiet
  | refused refuses quiet => exact .refused refuses quiet
  | rejected sqlite accepts old quiet => exact .rejected sqlite accepts old quiet

theorem Opened.ahead {a : α} {rest : List Event} (b : β)
    (opened : Opened surroundings engine (.ok a) events) (quiet : Quiet rest) :
    Opened surroundings engine (.ok b) (events ++ rest) := by
  cases opened with
  | given accepts recent before later =>
      rw [List.append_assoc]
      exact .given accepts recent before (later.append quiet)

/-- An action may open a connection. -/
def Opens (surroundings : Surroundings) (engine : Engine) (act : Doing α) : Prop :=
  Opened surroundings engine (act.run ()).result (act.run ()).events

namespace Opens

theorem fail (failure : Failure) : Opens surroundings engine (Act.fail failure : Doing α) :=
  .unasked .nil

/-- What opens a connection may come behind what opens none. -/
theorem after {first : Doing α} {next : α → Doing β} (still : first.Follows Still)
    (opens : ∀ a, Opens surroundings engine (next a)) : Opens surroundings engine (first >>= next) := by
  unfold Opens
  cases result : (first.run ()).result with
  | ok a =>
      rw [Act.run_bind_ok result]
      exact (opens a).behind (still ())
  | error failure =>
      rw [Act.run_bind_error result]
      exact .unasked (still ())

/-- What opens no connection, and cannot fail, may follow. -/
theorem followed {first : Doing α} {next : α → Doing β} (opens : Opens surroundings engine first)
    (still : ∀ a, (next a).Follows Still) (succeeds : ∀ a, ∃ b, ((next a).run ()).result = .ok b) :
    Opens surroundings engine (first >>= next) := by
  unfold Opens at opens ⊢
  cases result : (first.run ()).result with
  | error failure =>
      rw [result] at opens
      rw [Act.run_bind_error result]
      exact opens.failed
  | ok a =>
      rw [result] at opens
      obtain ⟨b, same⟩ := succeeds a
      rw [Act.run_bind_ok result]
      show Opened surroundings engine ((next a).run ()).result _
      rw [same]
      exact opens.ahead b (still a ())

/-- A client library is asked for a connection; what it opens is closed if it is too old, and given
otherwise. -/
theorem call {next : Doing α} (arguments : Entries) (target : Value)
    (goesOn :
      engine = .sqlite ∧ isTooOld surroundings.sqliteVersion = true ∧
          next.run () = ⟨.error (.report (tooOld surroundings.sqliteVersion)), [.close], ()⟩ ∨
        (engine = .sqlite → isTooOld surroundings.sqliteVersion = false) ∧
          next.Follows Still ∧ ∃ a, (next.run ()).result = .ok a) :
    Opens surroundings engine
      (callLibrary surroundings engine arguments target >>= fun _ => next) := by
  unfold Opens
  rcases callLibrary_cases surroundings engine arguments target with
    ⟨failure, run⟩ | ⟨refuses, failure, run⟩ | ⟨accepts, run⟩
  · rw [Act.run_bind_error (by rw [run]), run]
    exact .unasked .nil
  · rw [Act.run_bind_error (by rw [run]), run]
    exact Opened.refused refuses Quiet.nil
  · rw [Act.run_bind_ok (by rw [run]), run]
    rcases goesOn with ⟨sqlite, old, rejects⟩ | ⟨recent, still, a, same⟩
    · rw [rejects]
      exact Opened.rejected sqlite accepts old Quiet.nil
    · show Opened surroundings engine (next.run ()).result _
      rw [same]
      exact Opened.given accepts recent Quiet.nil (still ())

end Opens

theorem lift_still (attempt : Attempt α) : (liftM attempt : Doing α).Follows Still :=
  Act.Follows.done still_sequential attempt

theorem openPostgres_opens : Opens surroundings .postgres (openPostgres surroundings logging config) := by
  refine .after (lift_still _) fun params => ?_
  have opens : Opens surroundings .postgres (do
      debug logging ("Connecting to PostgreSQL: " ++ config.describe)
      callLibrary surroundings .postgres (postgresArguments params) (.text config.describe)
      Act.emit [.configure .postgres]
      pure (adapt surroundings .postgres)) := by
    refine .after (debug_still _ _) fun _ => .call _ _ (.inr ⟨nofun, ?_, _, rfl⟩)
    exact .bind still_sequential (configure_still .postgres) fun _ => .done still_sequential _
  split
  · exact .after (debug_still _ _) fun _ => opens
  · exact opens

theorem openMysql_opens : Opens surroundings .mysql (openMysql surroundings logging config) :=
  .after (debug_still _ _) fun _ => .after (lift_still _) fun _ =>
    .call _ _ (.inr ⟨nofun, .done still_sequential _, _, rfl⟩)

theorem openSqlite_opens (closes : surroundings.closing.connectionError = none) :
    Opens surroundings .sqlite (openSqlite surroundings logging config) := by
  refine .after (lift_still _) fun arguments => .call _ _ ?_
  cases old : isTooOld surroundings.sqliteVersion with
  | true =>
      refine .inl ⟨rfl, rfl, ?_⟩
      rw [closes]
      rfl
  | false =>
      refine .inr ⟨fun _ => rfl, ?_, _, rfl⟩
      exact .bind still_sequential (debug_still _ _) fun _ =>
        .bind still_sequential (configure_still .sqlite) fun _ => .done still_sequential _

/-- **The ways in which a connection is opened.** -/
theorem openNew_opens (closes : surroundings.closing.connectionError = none) :
    Opens surroundings config.engine (openNew surroundings logging config) := by
  unfold openNew
  split
  · exact .fail _
  · cases engine : config.engine with
    | postgres => exact openPostgres_opens
    | mysql => exact openMysql_opens
    | sqlite => exact openSqlite_opens closes

/-! ## Connecting -/

/-- A connection that the caller has made, as it is. -/
def asItIs (surroundings : Surroundings) : Value → Link
  | .connection .plain => .plain surroundings.plainReplies
  | value => .bare value

/-- A connection that is carried is put into an adapter if it is of the engine's own client library,
and is left as it is otherwise. -/
theorem initialLink_carried (carried : config.connection ≠ .null) :
    (CarriesOwn surroundings config → initialLink surroundings config = adapt surroundings config.engine) ∧
      (¬ CarriesOwn surroundings config →
        initialLink surroundings config = asItIs surroundings config.connection) := by
  constructor
  · rintro ⟨own, installed⟩
    rw [initialLink, own]
    exact if_pos ⟨rfl, installed⟩
  · intro foreign
    unfold initialLink
    split
    · exact absurd ‹_› carried
    · rename_i plain
      rw [plain]
      rfl
    · rename_i made raw
      have apart : ¬ (made = config.engine ∧ isInstalled surroundings config.engine = true) := by
        rintro ⟨rfl, installed⟩
        exact foreign ⟨raw, installed⟩
      rw [if_neg apart, raw]
      rfl
    · rename_i value _ notPlain _
      rw [asItIs]
      exact notPlain

/-- Taking over a connection cannot fail, and opens and closes none. -/
theorem run_takeOver (surroundings : Surroundings) (engine : Engine) (connection : Value) :
    ∃ link events, (takeOver surroundings engine connection).run () = ⟨.ok link, events, ()⟩ ∧
      Quiet events := by
  unfold takeOver
  split
  · exact ⟨_, _, rfl, .nil⟩
  · split
    · split
      · exact ⟨_, _, rfl, configure_still .sqlite ()⟩
      · exact ⟨_, _, rfl, .nil⟩
    · exact ⟨_, _, rfl, .nil⟩
  · exact ⟨_, _, rfl, .nil⟩

/-- A session is made of its connection, after a note. -/
def established (surroundings : Surroundings) (logging : Logging) (config : Config) (link : Link) :
    Doing Session := do
  debug logging ("Connected to " ++ config.describe)
  pure ⟨config.engine, config.dryRun, logging, false, link, surroundings.closing⟩

theorem established_still (link : Link) :
    (established surroundings logging config link).Follows Still :=
  .bind still_sequential (debug_still _ _) fun _ => .done still_sequential _

theorem established_ok (link : Link) :
    ∃ session, ((established surroundings logging config link).run ()).result = .ok session :=
  ⟨_, rfl⟩

/-- Where a configuration carries no connection, one is opened. -/
theorem start_opens (closes : surroundings.closing.connectionError = none)
    (absent : config.connection = .null) :
    Opens surroundings config.engine (start surroundings logging config) := by
  refine .after (debug_still _ _) fun _ => ?_
  rw [absent]
  exact .followed (openNew_opens closes) established_still established_ok

/-- Where a configuration carries a connection, none is opened, and nothing fails. -/
theorem start_carried (logging : Logging) (carried : config.connection ≠ .null) :
    Quiet ((start surroundings logging config).run ()).events ∧
      ∃ session, ((start surroundings logging config).run ()).result = .ok session := by
  have notNull : config.connection.isNull = false := by
    cases connection : config.connection with
    | null => exact absurd connection carried
    | _ => rfl
  have whole : start surroundings logging config =
      (debug logging ("Using " ++ config.engine.driverName ++ " for " ++ config.describe) >>= fun _ =>
        takeOver surroundings config.engine config.connection >>=
          established surroundings logging config) := by
    rw [start, notNull]
    rfl
  rw [whole]
  obtain ⟨link, events, taken, quiet⟩ :=
    run_takeOver surroundings config.engine config.connection
  rw [Act.run_bind_ok (by rfl), Act.run_bind_ok (by rw [taken]), taken]
  exact ⟨(debug_still _ _ ()).append (quiet.append (established_still link ())), established_ok link⟩

/-- A session starts from nothing, from a connection that is opened, or from one that is carried. -/
theorem connect_cases (closes : surroundings.closing.connectionError = none) (logging : Logging)
    (source : Source) :
    (∃ failure, (connect surroundings logging source).run () = ⟨.error failure, [], ()⟩) ∨
      ∃ config, readSource source = .ok config ∧
        (connect surroundings logging source).run () = (start surroundings logging config).run () ∧
        (config.connection = .null ∧
            Opens surroundings config.engine (start surroundings logging config) ∨
          config.connection ≠ .null ∧ Quiet ((start surroundings logging config).run ()).events ∧
            ∃ session, ((start surroundings logging config).run ()).result = .ok session) := by
  unfold connect
  cases read : readSource source with
  | error failure => exact .inl ⟨failure, rfl⟩
  | ok config =>
      refine .inr ⟨config, rfl, Act.run_lift_bind_ok rfl _ _, ?_⟩
      by_cases absent : config.connection = .null
      · exact .inl ⟨absent, start_opens closes absent⟩
      · exact .inr ⟨absent, start_carried logging absent⟩

/-! ## Owning a connection -/

/-- A failure leaves no connection open. -/
theorem Opened.openAfter_error {failure : Failure}
    (opened : Opened surroundings engine (.error failure : Attempt α) events) :
    openAfter surroundings events = 0 := by
  cases opened with
  | unasked quiet => exact quiet.foldl 0
  | refused refuses quiet =>
      rw [quiet.openAfter_append]
      cases refusal : surroundings.refusal with
      | none => exact absurd refusal refuses
      | some text => simp [openAfter, openAfterEvent, refusal]
  | rejected sqlite accepts old quiet =>
      rw [quiet.openAfter_append]
      simp [openAfter, openAfterEvent, accepts]

/-- A success leaves the one connection open for which a client library was asked. -/
theorem Opened.openAfter_ok {a : α} (opened : Opened surroundings engine (.ok a) events) :
    (∃ arguments, events.filter Event.isConnect = [.connect engine arguments]) ∧
      openAfter surroundings events = 1 := by
  cases opened with
  | @given _ before after arguments accepts recent quiet later =>
      constructor
      · refine ⟨arguments, ?_⟩
        rw [List.filter_append, quiet.filter, List.filter_cons_of_pos rfl, later.filter]
        rfl
      · rw [quiet.openAfter_append, openAfter, List.foldl_cons, later.foldl]
        simp [openAfterEvent, accepts]

/-- A connection that SQLite has opened is rejected exactly if the version is too old. -/
theorem Opened.rejected_iff {result : Attempt α} {arguments : Entries}
    (opened : Opened surroundings engine result events) (accepts : surroundings.refusal = none)
    (asked : .connect .sqlite arguments ∈ events) :
    (result = .error (.report (tooOld surroundings.sqliteVersion)) ↔
        List.Lex (· < ·) surroundings.sqliteVersion [3, 8, 6]) ∧
      ((∃ a, result = .ok a) ↔ ¬ List.Lex (· < ·) surroundings.sqliteVersion [3, 8, 6]) := by
  have compared : isTooOld surroundings.sqliteVersion = true ↔
      List.Lex (· < ·) surroundings.sqliteVersion [3, 8, 6] := versionBefore_iff _ _
  rw [← compared]
  cases opened with
  | unasked quiet => exact absurd (quiet _ asked).1 nofun
  | refused refuses quiet => exact absurd accepts refuses
  | rejected sqlite accepts old quiet => simp [old]
  | @given a before after arguments accepts recent quiet later =>
      have sqlite : engine = .sqlite := by
        rcases List.mem_append.1 asked with first | here
        · exact absurd (quiet _ first).1 nofun
        · rcases List.mem_cons.1 here with same | last
          · injection same with same
            exact same.symm
          · exact absurd (later _ last).1 nofun
      simp [recent sqlite]

/-- **Connecting owns one connection or none**, where closing a connection does not fail.  A session
has the connection that its configuration carries, for which no client library is asked, in an
adapter if it is of the engine's own client library and that is there, and as it is otherwise; or
the client library was asked once, and the session has the connection that it opened, in an adapter.
A failure leaves no connection open.  And a connection that SQLite has opened is rejected exactly if
the version of the library is before 3.8.6. -/
theorem connecting_owns_one_connection_or_none
    (closes : surroundings.closing.connectionError = none) (logging : Logging) (source : Source) :
    let outcome := (connect surroundings logging source).run ()
    (∀ session, outcome.result = .ok session → ∃ config, readSource source = .ok config ∧
      (config.connection ≠ .null ∧ outcome.events.filter Event.isConnect = [] ∧
          ends outcome.events = 0 ∧
          (CarriesOwn surroundings config → session.link = adapt surroundings config.engine) ∧
          (¬ CarriesOwn surroundings config →
            session.link = asItIs surroundings config.connection) ∨
        config.connection = .null ∧
          (∃ arguments, outcome.events.filter Event.isConnect = [.connect config.engine arguments]) ∧
          openAfter surroundings outcome.events = 1 ∧
          session.link = adapt surroundings config.engine)) ∧
    (∀ failure, outcome.result = .error failure → openAfter surroundings outcome.events = 0) ∧
    ∀ arguments, surroundings.refusal = none → .connect .sqlite arguments ∈ outcome.events →
      (outcome.result = .error (.report (tooOld surroundings.sqliteVersion)) ↔
          List.Lex (· < ·) surroundings.sqliteVersion [3, 8, 6]) ∧
        ((∃ session, outcome.result = .ok session) ↔
          ¬ List.Lex (· < ·) surroundings.sqliteVersion [3, 8, 6]) := by
  intro outcome
  rcases connect_cases closes logging source with ⟨failure, run⟩ | ⟨config, read, run, way⟩
  · have same : outcome = ⟨.error failure, [], ()⟩ := run
    rw [same]
    refine ⟨fun session given => ?_, fun _ _ => rfl, fun arguments accepts asked => ?_⟩
    · cases given
    · cases asked
  · have link (session : Session) (given : outcome.result = .ok session) :
        session.link = initialLink surroundings config := by
      obtain ⟨other, readOther, rfl⟩ := connect_eq_ok given
      obtain rfl := Except.ok.inj (read.symm.trans readOther)
      rfl
    have same : outcome = (start surroundings logging config).run () := run
    rcases way with ⟨absent, opens⟩ | ⟨carried, quiet, session, given⟩
    · unfold Opens at opens
      rw [← same] at opens
      refine ⟨fun session given => ⟨config, read, .inr ?_⟩, fun failure failed => ?_,
        fun arguments accepts asked => opens.rejected_iff accepts asked⟩
      · have owned := link session given
        rw [given] at opens
        obtain ⟨once, one⟩ := opens.openAfter_ok
        rw [initialLink, absent] at owned
        exact ⟨absent, once, one, owned⟩
      · rw [failed] at opens
        exact opens.openAfter_error
    · rw [← same] at quiet given
      refine ⟨fun session given => ⟨config, read, .inl ⟨carried, quiet.filter, ?_, ?_⟩⟩,
        fun failure failed => ?_, fun arguments accepts asked => ?_⟩
      · exact ends_eq_zero fun event member => (quiet event member).2
      · rw [link session given]
        exact initialLink_carried carried
      · rw [given] at failed
        cases failed
      · have unasked := (quiet _ asked).1
        cases unasked

/-- An SQLite library that is too old. -/
def oldSurroundings : Surroundings :=
  { quietSurroundings with sqliteVersion := [3, 8, 5] }

/-- Of a library that is too old nothing is left open, and of a recent one the session's
connection. -/
theorem connecting_owns_one_connection_or_none_sqlite :
    let source := Source.config (plainConfig .sqlite .null (.bool false))
    let rejected := (connect oldSurroundings ⟨5, true⟩ source).run ()
    let accepted := (connect quietSurroundings ⟨5, true⟩ source).run ()
    rejected.result = .error (.report (tooOld [3, 8, 5])) ∧
      openAfter oldSurroundings rejected.events = 0 ∧
      openAfter quietSurroundings accepted.events = 1 := by
  intro source rejected accepted
  obtain ⟨-, failing, judged⟩ :=
    connecting_owns_one_connection_or_none (show oldSurroundings.closing.connectionError = none from rfl)
      ⟨5, true⟩ source
  obtain ⟨returning, -⟩ :=
    connecting_owns_one_connection_or_none
      (show quietSurroundings.closing.connectionError = none from rfl) ⟨5, true⟩ source
  have tooOld := (judged _ rfl (.tail _ (.head _))).1.2 (by decide)
  obtain ⟨config, read, ⟨carried, -⟩ | ⟨-, -, one, -⟩⟩ := returning _ rfl
  · obtain rfl := Except.ok.inj read
    exact absurd rfl carried
  · exact ⟨tooOld, failing _ tooOld, one⟩

/-- **Without the client library its connections are left as they are**, since nothing is known to
tell them from others. -/
theorem connection_of_missing_library_is_left :
    let surroundings := { quietSurroundings with installed := false }
    let config := plainConfig .postgres (.connection (.raw .postgres)) (.bool false)
    ∃ session, ((connect surroundings ⟨5, true⟩ (.config config)).run ()).result = .ok session ∧
      session.link = .bare config.connection ∧ session.link ≠ adapt surroundings config.engine :=
  ⟨_, rfl, rfl, nofun⟩

end Connect

end SchemaChange
