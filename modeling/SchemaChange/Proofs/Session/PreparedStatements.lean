/-
# SchemaChange.Proofs.Session.PreparedStatements — PostgreSQL's prepared statements over a run

PostgreSQL's adapter answers a statement with values by preparing it under a number that it has
not used, executing it with the values, and releasing it; any other statement it executes as it
is.  What it does with a statement is an exchange, and a run is a conversation of exchanges, each
with the answers that the ones before leave (`Conversation`).

* `Conversation.numbers` — the numbers that are taken are those from the first one up, whether
  exchanges fail or not.
* `Link.Answers.conversation`, `Numbered.rounds` — what an adapter answers, and a whole run, is
  a conversation, and nothing else is executed.
* `interpolate_executeCommand` — an execution has a mark for each of its values.
* `failure_of_dispatched` — a statement that fails is what its operation fails with.
* `prepared_statements_are_fresh` — all of this for every run over PostgreSQL's adapter.
-/
import SchemaChange.Proofs.Session.Binding
import SchemaChange.Proofs.Session.Closing
import SchemaChange.Proofs.Session.Dispatched
import SchemaChange.Proofs.Text.Decimal

set_option autoImplicit false

namespace SchemaChange

open SchemaChange.Statement (Piece interpolate)

/-- The failure that came of a statement, if one did. -/
def Dispatched.failure? (sent : Dispatched) : Option Failure :=
  match sent.answer with
  | .ok _ => none
  | .error failure => some failure

/-- What came of a statement is a failure if that is how its action ended. -/
theorem Dispatched.failure?_of_outcome {State : Type} (sql : String) (values : Option (List Value))
    (outcome : Outcome Failure State Event Value) :
    Dispatched.failure? ⟨sql, values, outcome.result⟩ = outcome.failure? := by
  unfold Dispatched.failure? Outcome.failure?
  cases outcome.result with
  | ok value => rfl
  | error failure => rfl

/-- What PostgreSQL's adapter does with a statement that is handed on: the number under which it is
prepared, if it is, what happens on the cursor, and the fault that ends it, if one does. -/
structure Exchange where
  sent : Dispatched
  number : Option Nat
  events : List Event
  fault : Option AdapterError

/-- The executions that a statement asks for, under the number that it has, if it has one. -/
def Exchange.executions (exchange : Exchange) : List Execution :=
  match exchange.number with
  | none => [⟨exchange.sent.sql, none, true⟩]
  | some number =>
      Adapter.preparedExecutions number exchange.sent.sql (exchange.sent.values.getD [])

/-- Exchanges one after the other: those with values take the next number, and each conducts its
executions with the answers that the ones before leave, and fails with the fault that ends it. -/
inductive Conversation :
    Nat → List CursorReply → List Exchange → Nat → List CursorReply → Prop
  | done (number : Nat) (replies : List CursorReply) :
      Conversation number replies [] number replies
  | next {number last : Nat} {replies middle after : List CursorReply} {exchange : Exchange}
      {rest : List Exchange}
      (numbered : exchange.number =
        if Adapter.prepares .postgres exchange.sent.values then some number else none)
      (conducted : Conducted .postgres exchange.executions replies exchange.events exchange.fault
        middle)
      (answered : exchange.sent.failure? =
        exchange.fault.map (Adapter.queryFailure .postgres exchange.sent.sql))
      (others : Conversation (number + (Adapter.prepares .postgres exchange.sent.values).toNat)
        middle rest last after) :
      Conversation number replies (exchange :: rest) last after

namespace Conversation

variable {number middle last : Nat} {before between after : List CursorReply}
  {first rest exchanges : List Exchange}

theorem append (head : Conversation number before first middle between)
    (tail : Conversation middle between rest last after) :
    Conversation number before (first ++ rest) last after := by
  induction head with
  | done number replies => exact tail
  | next numbered conducted answered others ih => exact .next numbered conducted answered (ih tail)

/-- **The numbers that are taken are those from the first one up.** -/
theorem numbers (conversation : Conversation number before exchanges last after) :
    exchanges.filterMap Exchange.number = List.range' number (last - number) ∧ number ≤ last := by
  induction conversation with
  | done number replies => simp
  | @next number last replies middle after exchange rest numbered conducted answered others ih =>
      obtain ⟨taken, le⟩ := ih
      cases prepares : Adapter.prepares .postgres exchange.sent.values with
      | false =>
          rw [prepares] at numbered taken le
          rw [List.filterMap_cons_none numbered, taken]
          exact ⟨rfl, le⟩
      | true =>
          rw [prepares] at numbered taken le
          rw [List.filterMap_cons_some numbered, taken]
          have count : last - number = (last - (number + 1)) + 1 := by
            simp only [Bool.toNat_true] at le
            omega
          rw [count, List.range'_succ]
          refine ⟨rfl, ?_⟩
          simp only [Bool.toNat_true] at le
          omega

end Conversation

/-! ## What is executed -/

/-- What an execution hands to a cursor. -/
def Execution.handed (execution : Execution) : String × Option (List Value) :=
  (execution.sql, execution.params)

/-- Of the executions that are asked for, those from the first on are conducted, until one fails,
and all of them if none does. -/
theorem Conducted.executed_prefix {engine : Engine} {executions : List Execution}
    {before after : List CursorReply} {events : List Event} {fault : Option AdapterError}
    (conducted : Conducted engine executions before events fault after) :
    executed events <+: executions.map Execution.handed ∧
      (fault = none → executed events = executions.map Execution.handed) ∧
      (executions ≠ [] → executed events ≠ []) := by
  induction conducted with
  | done replies => exact ⟨List.nil_prefix, fun _ => rfl, fun some => absurd rfl some⟩
  | @accepted execution rest replies after events fault fine others ih =>
      obtain ⟨inOrder, whole, -⟩ := ih
      rw [executed_append, Execution.executed_events, List.map_cons]
      refine ⟨List.cons_prefix_cons.2 ⟨rfl, inOrder⟩, ?_, ?_⟩
      · intro none
        rw [whole none]
        rfl
      · intro _
        exact List.cons_ne_nil _ _
  | @failed execution rest replies fault here =>
      rw [Execution.executed_events, List.map_cons]
      refine ⟨List.cons_prefix_cons.2 ⟨rfl, List.nil_prefix⟩, ?_, ?_⟩
      · intro none
        cases none
      · intro _
        exact List.cons_ne_nil _ _

/-- What does not reach a connection is not executed. -/
theorem executed_filter (events : List Event) :
    executed (events.filter Event.isTraffic) = executed events := by
  induction events with
  | nil => rfl
  | cons event events ih =>
      cases event with
      | execute sql values =>
          show (sql, values) :: executed (events.filter Event.isTraffic) = _
          rw [ih]
          rfl
      | _ => exact ih

/-! ## Marks -/

namespace Adapter

theorem toList_statementName (number : Nat) :
    (statementName number).toList = "dbmigrate_stmt_".toList ++ Text.digits number := by
  show ("dbmigrate_stmt_" ++ toString number).toList = _
  rw [String.toList_append, Text.digits]

theorem toList_valueMarks (count : Nat) :
    (valueMarks count).toList = Text.joinWith [',', ' '] (List.replicate count ['%', 's']) := by
  have mark : "%s".toList = ['%', 's'] := rfl
  rw [valueMarks, commaSeparated, Text.toList_intercalate, List.map_replicate, mark]
  rfl

/-- Marks for a number of values take that number of values. -/
theorem interpolate_valueMarks (values : List Value) :
    ∃ pieces, interpolate ((valueMarks values.length).toList ++ [')']) values = .ok pieces ∧
      pieces.filterMap Piece.value? = values := by
  rw [toList_valueMarks]
  induction values with
  | nil => exact ⟨[.char ')'], rfl, rfl⟩
  | cons value values ih =>
      cases values with
      | nil => exact ⟨[.value value, .char ')'], rfl, rfl⟩
      | cons next values =>
          obtain ⟨pieces, filled, same⟩ := ih
          have front : Text.joinWith [',', ' ']
              (List.replicate (value :: next :: values).length ['%', 's']) = '%' :: 's' :: ',' :: ' ' ::
                Text.joinWith [',', ' '] (List.replicate (next :: values).length ['%', 's']) := rfl
          refine ⟨.value value :: .char ',' :: .char ' ' :: pieces, ?_, ?_⟩
          · rw [front, List.cons_append, List.cons_append, List.cons_append, List.cons_append,
              interpolate, Statement.interpolate_cons (by decide),
              Statement.interpolate_cons (by decide), filled]
            rfl
          · rw [← same]
            rfl

/-- **The execution of a prepared statement has a mark for each of its values**, which take their
places in order. -/
theorem interpolate_executeCommand (number : Nat) (values : List Value) :
    ∃ pieces,
      interpolate (executeCommand (statementName number) values.length).toList values = .ok pieces ∧
        pieces.filterMap Piece.value? = values := by
  obtain ⟨pieces, filled, same⟩ := interpolate_valueMarks values
  obtain ⟨front, clean, whole⟩ : ∃ front, '%' ∉ front ∧
      (executeCommand (statementName number) values.length).toList
        = front ++ ((valueMarks values.length).toList ++ [')']) := by
    refine ⟨"EXECUTE ".toList ++ (statementName number).toList ++ " (".toList, ?_, ?_⟩
    · have inDigits := Text.not_mem_digits (c := '%') (by decide) number
      simp [toList_statementName, inDigits]
    · simp [executeCommand]
  rw [whole, Statement.interpolate_append clean, filled]
  refine ⟨_, rfl, ?_⟩
  have none : ∀ text : List Char, (text.map Piece.char).filterMap Piece.value? = [] := by
    intro text
    rw [List.filterMap_eq_nil_iff]
    intro piece member
    obtain ⟨c, -, rfl⟩ := List.mem_map.1 member
    rfl
  rw [List.filterMap_append, none, List.nil_append, same]

theorem statementName_injective {a b : Nat} (same : statementName a = statementName b) : a = b := by
  apply Text.digits_injective
  have texts := congrArg String.toList same
  rw [toList_statementName, toList_statementName] at texts
  exact List.append_cancel_left texts

end Adapter

/-! ## An exchange -/

/-- The commands that prepare a statement under a number, execute it with values, and release it. -/
def Adapter.commands (number : Nat) (sql : String) (values : List Value) :
    List (String × Option (List Value)) :=
  let name := statementName number
  [(prepareCommand name sql, none), (executeCommand name values.length, some values),
    (releaseCommand name, none)]

/-- What an exchange comes to. -/
structure Exchange.Orderly (exchange : Exchange) : Prop where
  /-- A statement without a number has no values, and is executed as it is. -/
  direct : exchange.number = none →
    (exchange.sent.values = none ∨ exchange.sent.values = some []) ∧
      executed exchange.events = [(exchange.sent.sql, none)]
  /-- A statement with a number has values; of its three commands those before and up to one that
  fails are executed, and all of them if none does, and the execution has a mark for each value. -/
  prepared : ∀ number, exchange.number = some number →
    ∃ values, exchange.sent.values = some values ∧ values ≠ [] ∧
      executed exchange.events ≠ [] ∧
      executed exchange.events <+: Adapter.commands number exchange.sent.sql values ∧
      (exchange.fault = none →
        executed exchange.events = Adapter.commands number exchange.sent.sql values) ∧
      ∃ pieces,
        interpolate (Adapter.executeCommand (Adapter.statementName number) values.length).toList
          values = .ok pieces ∧
        pieces.filterMap Piece.value? = values
  /-- An error of the client library is reported with the statement. -/
  refused : ∀ error, exchange.fault = some (.client error) →
    ∃ report, exchange.sent.answer = .error (.report report) ∧
      report.trouble = .execution (.text exchange.sent.sql) (.text Engine.postgres.name) error.code

theorem Dispatched.answer_of_failure? {sent : Dispatched} {failure : Failure}
    (failed : sent.failure? = some failure) : sent.answer = .error failure := by
  unfold Dispatched.failure? at failed
  split at failed
  · cases failed
  · rename_i other answer
    rw [answer, Option.some.inj failed]

/-- An exchange that conducts its executions and fails with the fault that ends it is orderly. -/
theorem Exchange.orderly {exchange : Exchange} {next : Nat} {before after : List CursorReply}
    (numbered : exchange.number =
      if Adapter.prepares .postgres exchange.sent.values then some next else none)
    (conducted : Conducted .postgres exchange.executions before exchange.events exchange.fault after)
    (answered : exchange.sent.failure? =
      exchange.fault.map (Adapter.queryFailure .postgres exchange.sent.sql)) :
    exchange.Orderly := by
  obtain ⟨⟨sql, values, answer⟩, number, events, fault⟩ := exchange
  constructor
  · rintro rfl
    have bare : values = none ∨ values = some [] := by
      cases values with
      | none => exact .inl rfl
      | some values =>
          cases values with
          | nil => exact .inr rfl
          | cons value values => cases numbered
    exact ⟨bare, conducted.executes⟩
  · rintro number rfl
    cases values with
    | none => cases numbered
    | some values =>
        cases values with
        | nil => cases numbered
        | cons value values =>
            obtain ⟨inOrder, whole, some⟩ := conducted.executed_prefix
            exact ⟨value :: values, rfl, List.cons_ne_nil _ _, some (List.cons_ne_nil _ _), inOrder,
              whole, Adapter.interpolate_executeCommand number (value :: values)⟩
  · rintro error rfl
    exact ⟨_, Dispatched.answer_of_failure? answered, rfl⟩

/-- **The exchanges of a conversation are orderly.** -/
theorem Conversation.orderly {number last : Nat} {before after : List CursorReply}
    {exchanges : List Exchange} (conversation : Conversation number before exchanges last after) :
    ∀ exchange ∈ exchanges, exchange.Orderly := by
  induction conversation with
  | done number replies =>
      intro exchange member
      cases member
  | next numbered conducted answered others ih =>
      intro other member
      rcases List.mem_cons.1 member with rfl | later
      · exact Exchange.orderly numbered conducted answered
      · exact ih other later

/-! ## What an adapter answers -/

theorem Adapter.executions_postgres {own : Adapter} (postgres : own.engine = .postgres)
    (sent : Dispatched) (events : List Event) (fault : Option AdapterError) :
    own.executions sent.sql sent.values = (Exchange.mk sent
      (if Adapter.prepares .postgres sent.values then some own.nextStatement else none)
      events fault).executions := by
  obtain ⟨engine, replies, cursor, number⟩ := own
  obtain ⟨sql, values, answer⟩ := sent
  cases postgres
  cases values with
  | none => rfl
  | some values => cases values <;> rfl

/-- **The statements that PostgreSQL's adapter answers are a conversation.** -/
theorem Link.Answers.conversation {link last : Link} {sent : List Dispatched} {events : List Event}
    (answers : Link.Answers link sent events last) {own : Adapter} (client : link = .adapter own)
    (postgres : own.engine = .postgres) :
    ∃ exchanges later, last = .adapter later ∧ later.engine = .postgres ∧
      Conversation own.nextStatement own.replies exchanges later.nextStatement later.replies ∧
      exchanges.map Exchange.sent = sent ∧
      executed events = exchanges.flatMap fun exchange => executed exchange.events := by
  induction answers generalizing own with
  | nothing link => exact ⟨[], own, client, postgres, .done _ _, rfl, rfl⟩
  | @next link last sql values others events rest ih =>
      subst client
      have serves : (Link.adapter own).Serves .postgres := postgres
      have submission := Link.query_submits serves sql values
      have failing := Dispatched.failure?_of_outcome sql values
        ((Link.query sql values).run (.adapter own))
      generalize ((Link.query sql values).run (.adapter own)).events = here at *
      generalize ((Link.query sql values).run (.adapter own)).failure? = failure? at *
      generalize ((Link.query sql values).run (.adapter own)).state = middle at *
      cases submission with
      | @client own work fault replies kind conducted =>
          obtain ⟨exchanges, later, same, still, conversation, all, handed⟩ :=
            ih rfl (own.ready_engine.trans postgres)
          let sent : Dispatched :=
            ⟨sql, values, ((Link.query sql values).run (.adapter own)).result⟩
          let number := if Adapter.prepares .postgres values then some own.nextStatement else none
          rw [own.executions_postgres postgres sent work fault] at conducted
          refine ⟨⟨sent, number, work, fault⟩ :: exchanges, later, same, still,
            .next rfl conducted failing conversation, ?_, ?_⟩
          · rw [List.map_cons, all]
          · rw [executed_append, executed_append, Adapter.executed_cursorEvents, List.nil_append,
              handed, List.flatMap_cons]

/-! ## Runs -/

namespace Session

variable {α : Type} {number : Nat} {replies : List CursorReply} {session : Session}

/-- An open session over PostgreSQL's adapter, which has a number for its next statement and answers
to give. -/
structure Numbered (number : Nat) (replies : List CursorReply) (session : Session) : Prop where
  opened : session.closed = false
  client : ∃ own : Adapter, session.link = .adapter own ∧ own.engine = .postgres ∧
    own.nextStatement = number ∧ own.replies = replies

/-- **A step but a close is a conversation**, and the session goes on with the number and the answers
that it leaves. -/
theorem Numbered.after_step (numbered : session.Numbered number replies) (now : Timestamp) {next : Step}
    (notClose : next.isClose = false) :
    ∃ exchanges last after, Conversation number replies exchanges last after ∧
      exchanges.map Exchange.sent = stepDispatched now next session ∧
      executed ((step now next).run session).events
        = (exchanges.flatMap fun exchange => executed exchange.events) ∧
      ((step now next).run session).state.Numbered last after := by
  obtain ⟨own, client, postgres, rfl, rfl⟩ := numbered.client
  cases next with
  | operation operation =>
      have answers := answers_perform numbered.opened (operation.script session.engine now)
      obtain ⟨exchanges, later, same, still, conversation, all, handed⟩ :=
        answers.conversation client postgres
      have opened : ((step now (.operation operation)).run session).state.closed = false := by
        rw [step_closed, numbered.opened]
        rfl
      rw [executed_filter] at handed
      rw [run_step_operation] at opened ⊢
      exact ⟨exchanges, _, _, conversation, all, handed, opened, later, same, still, rfl, rfl⟩
  | close => cases notClose
  | expireCursor =>
      refine ⟨[], _, _, .done _ _, rfl, rfl, numbered.opened, own.expire, ?_, postgres, rfl, rfl⟩
      rw [run_step_expireCursor, client]
      rfl

/-- The steps of a run before its first close. -/
def active (steps : List (Timestamp × Step)) : List (Timestamp × Step) :=
  steps.takeWhile fun timed => !timed.2.isClose

/-- Closing executes nothing. -/
theorem executed_close (closing : Closing) (own : Adapter) :
    executed ((Adapter.close closing).run own).events = [] := by
  rw [executed, List.filterMap_eq_nil_iff]
  intro event member
  rcases Adapter.mem_close member with rfl | rfl
  · rfl
  · rfl

/-- After the end of the connection no step executes anything. -/
theorem executed_ended (closed : session.closed = true) (steps : List (Timestamp × Step)) :
    ∀ outcome ∈ (runAll steps session).1, executed outcome.events = [] := by
  intro outcome member
  refine executed_eq_nil fun event inside => seen_silent closed steps event ?_
  exact List.mem_flatMap.2 ⟨outcome, member, inside⟩

/-- **A run is a conversation up to its first close, in one round for each step**, and executes
nothing else. -/
theorem Numbered.rounds (numbered : session.Numbered number replies)
    (steps : List (Timestamp × Step)) :
    ∃ (rounds : List (List Exchange)) (last : Nat) (after : List CursorReply),
      Conversation number replies rounds.flatten last after ∧
      rounds.flatten.map Exchange.sent = runDispatched (active steps) session ∧
      (runAll steps session).1.map (fun outcome => executed outcome.events)
        = rounds.map fun round => round.flatMap fun exchange => executed exchange.events := by
  induction steps generalizing number replies session with
  | nil => exact ⟨[], number, replies, .done _ _, rfl, rfl⟩
  | cons head rest ih =>
      obtain ⟨now, next⟩ := head
      rw [runAll, List.map_cons]
      cases close : next.isClose with
      | true =>
          have none : active ((now, next) :: rest) = [] := by simp [active, close]
          have closed : ((step now next).run session).state.closed = true := by
            rw [step_closed, close, Bool.or_true]
          have here : executed ((step now next).run session).events = [] := by
            cases next with
            | close =>
                obtain ⟨own, client, -⟩ := numbered.client
                rw [run_step_close, run_close_of_open numbered.opened, client]
                exact executed_close session.closing own
            | operation operation => cases close
            | expireCursor => cases close
          -- the close and what comes after it are empty rounds
          let others := (runAll rest ((step now next).run session).state).1.map
            fun _ => ([] : List Exchange)
          have empty : ([] :: others).flatten = [] := by
            rw [List.flatten_eq_nil_iff]
            simp [others]
          refine ⟨[] :: others, number, replies, ?_, ?_, ?_⟩
          · rw [empty]
            exact .done number replies
          · rw [empty, none]
            rfl
          · rw [here, List.map_congr_left (executed_ended closed rest), List.map_cons, List.map_map]
            rfl
      | false =>
          have more : active ((now, next) :: rest) = (now, next) :: active rest := by
            simp [active, close]
          obtain ⟨exchanges, last, after, conversation, all, handed, still⟩ :=
            numbered.after_step now close
          obtain ⟨others, final, left, going, later, restHanded⟩ := ih still
          refine ⟨exchanges :: others, final, left, conversation.append going, ?_, ?_⟩
          · rw [more, runDispatched, List.flatten_cons, List.map_append, all, later]
          · rw [handed, restHanded, List.map_cons]

/-- A run is a conversation up to its first close, and executes nothing else. -/
theorem Numbered.converses (numbered : session.Numbered number replies)
    (steps : List (Timestamp × Step)) :
    ∃ exchanges last after, Conversation number replies exchanges last after ∧
      exchanges.map Exchange.sent = runDispatched (active steps) session ∧
      executed (seen steps session)
        = exchanges.flatMap fun exchange => executed exchange.events := by
  obtain ⟨rounds, last, after, conversation, all, handed⟩ := numbered.rounds steps
  refine ⟨rounds.flatten, last, after, conversation, all, ?_⟩
  have joined := congrArg List.flatten handed
  rw [← List.flatMap_def, ← List.flatMap_def] at joined
  rw [List.flatten_eq_flatMap, List.flatMap_assoc, seen, executed, List.filterMap_flatMap]
  exact joined

/-! ## What came of the statements of an operation -/

theorem mem_handedOn {template params : Value} {sent : Dispatched}
    (member : sent ∈ handedOn template params session) :
    Statement.prepare session.engine.dialect template params = .ok sent.sql ∧
      parameterValues params = .ok sent.values ∧
      sent.answer = ((submit template params).run session).result := by
  cases prepared : Statement.prepare session.engine.dialect template params with
  | error failure =>
      rw [handedOn_unprepared prepared] at member
      cases member
  | ok sql =>
      cases listed : parameterValues params with
      | error failure =>
          rw [handedOn_unlisted listed] at member
          cases member
      | ok values =>
          rcases Bool.eq_false_or_eq_true session.dryRun.truthy with dry | live
          · rw [handedOn_dry dry] at member
            cases member
          · rw [handedOn_live live prepared listed] at member
            obtain rfl := List.mem_singleton.1 member
            exact ⟨rfl, rfl, rfl⟩

/-- **A statement that fails is what its script fails with.** -/
theorem failure_of_dispatched {script : Script α} {sent : Dispatched} {failure : Failure}
    (member : sent ∈ dispatched script session) (failed : sent.answer = .error failure) :
    ((perform script).run session).failure? = some failure := by
  induction script generalizing session with
  | done outcome => cases member
  | note n next ih =>
      rw [perform, Act.run_bind_ok (by rfl)]
      exact ih member
  | submit template params next ih =>
      rw [dispatched] at member
      rcases List.mem_append.1 member with here | later
      · have refused : ((submit template params).run session).result = .error failure := by
          rw [← (mem_handedOn here).2.2, failed]
        rw [perform, Act.run_bind_error refused]
        rfl
      · cases result : ((submit template params).run session).result with
        | ok value =>
            rw [result] at later
            rw [perform, Act.run_bind_ok result]
            exact ih value later
        | error other =>
            rw [result] at later
            cases later
  | fetch template params next ih =>
      rw [dispatched] at member
      rcases List.mem_append.1 member with here | later
      · have refused : ((fetch template params).run session).result = .error failure := by
          rw [run_fetch_eq, ← (mem_handedOn here).2.2, failed]
          rfl
        rw [perform, Act.run_bind_error refused]
        rfl
      · cases result : ((fetch template params).run session).result with
        | ok rows =>
            rw [result] at later
            rw [perform, Act.run_bind_ok result]
            exact ih rows later
        | error other =>
            rw [result] at later
            cases later
  | askDryRun next ih =>
      rw [perform, Act.run_get_bind]
      exact ih session.dryRun.truthy member

/-- A statement or a query of the caller hands on its own template and parameters, or nothing. -/
theorem mem_dispatched_request {operation : Operation} {template params : Value}
    (request : operation = .run template params ∨ operation = .query template params)
    {now : Timestamp} {sent : Dispatched}
    (member : sent ∈ stepDispatched now (.operation operation) session) :
    Statement.prepare session.engine.dialect template params = .ok sent.sql ∧
      parameterValues params = .ok sent.values := by
  have only : stepDispatched now (.operation operation) session
      = handedOn template params session := by
    rcases request with rfl | rfl
    · show dispatched (.submit template params _) session = _
      rw [dispatched]
      cases ((submit template params).run session).result with
      | ok value => exact List.append_nil _
      | error failure => exact List.append_nil _
    · show dispatched (.fetch template params _) session = _
      rw [dispatched]
      cases ((fetch template params).run session).result with
      | ok rows => exact List.append_nil _
      | error failure => exact List.append_nil _
  rw [only] at member
  obtain ⟨prepared, listed, -⟩ := mem_handedOn member
  exact ⟨prepared, listed⟩

end Session

namespace Connect

/-- A session of PostgreSQL over its own client library's connection has taken no number yet. -/
theorem initial_numbered {surroundings : Surroundings} {config : Config} (logging : Logging)
    (postgres : config.engine = .postgres) (adapted : Adapted surroundings config) :
    (initial surroundings logging config).Numbered 1 surroundings.cursorReplies where
  opened := rfl
  client := ⟨_, initial_link_adapted logging adapted, postgres, rfl, rfl⟩

end Connect

namespace Session

/-- **Prepared statements are fresh.**  Over every run of a session over PostgreSQL's adapter, with
whatever answers and failures: up to the first close the statements that are handed on are exchanges
one after the other, each with the answers that the ones before leave, and nothing else is executed;
the names under which statements are prepared are all different; a statement without values is
executed as it is; one with values is prepared, executed and released under its name, with as many
marks as values, until one of the three fails; a failure of the client library is reported with the
statement, and is what the operation fails with; and the values are the parameters of the caller. -/
theorem prepared_statements_are_fresh {number : Nat} {replies : List CursorReply}
    {session : Session} (numbered : session.Numbered number replies)
    (steps : List (Timestamp × Step)) :
    (∃ exchanges last after, Conversation number replies exchanges last after ∧
      exchanges.map Exchange.sent = runDispatched (active steps) session ∧
      executed (seen steps session)
        = (exchanges.flatMap fun exchange => executed exchange.events) ∧
      ((exchanges.filterMap Exchange.number).map Adapter.statementName).Nodup ∧
      ∀ exchange ∈ exchanges, exchange.Orderly) ∧
    ∀ earlier now operation,
      let before := (runAll earlier session).2
      (∀ sent ∈ stepDispatched now (.operation operation) before, ∀ failure,
        sent.answer = .error failure →
          ((step now (.operation operation)).run before).failure? = some failure) ∧
      (∀ template params, operation = .run template params ∨ operation = .query template params →
        ∀ sent ∈ stepDispatched now (.operation operation) before,
          Statement.prepare before.engine.dialect template params = .ok sent.sql ∧
            parameterValues params = .ok sent.values) := by
  constructor
  · obtain ⟨exchanges, last, after, conversation, all, handed⟩ := numbered.converses steps
    refine ⟨exchanges, last, after, conversation, all, handed, ?_, conversation.orderly⟩
    rw [conversation.numbers.1]
    have distinct := @List.nodup_range' number (last - number) 1 (by decide)
    exact List.pairwise_map.2 (distinct.imp fun different same =>
      different (Adapter.statementName_injective same))
  · intro earlier now operation before
    refine ⟨?_, ?_⟩
    · intro sent member failure failed
      rw [run_step_operation]
      exact failure_of_dispatched member failed
    · intro template params request sent member
      exact mem_dispatched_request request member

/-- A client library that refuses the second execution. -/
def secondRefused : Surroundings :=
  { Connect.quietSurroundings with
    cursorReplies := [.answer Adapter.silence, .refusal ⟨"division by zero", .text "22012"⟩] }

/-- A session of PostgreSQL over such a library's connection. -/
def refusedSession : Session :=
  Connect.initial secondRefused ⟨5, true⟩
    (Connect.plainConfig .postgres (.connection (.raw .postgres)) (.bool false))

/-- Two statements with values, between which the cursor expires. -/
def dividingSteps : List (Timestamp × Step) :=
  let now := ⟨2024, 1, 2, 3, 4, 5, 6⟩
  [(now, .operation (.run (.text "select 1 / ?") (.list [.int 0]))), (now, .expireCursor),
    (now, .operation (.run (.text "select 1 / ?") (.list [.int 1])))]

theorem prepared_statements_are_fresh_refused :
    refusedSession.Numbered 1 secondRefused.cursorReplies ∧
      executed (seen dividingSteps refusedSession) =
        [("PREPARE dbmigrate_stmt_1 AS select 1 / $1", none),
          ("EXECUTE dbmigrate_stmt_1 (%s)", some [.int 0]),
          ("PREPARE dbmigrate_stmt_2 AS select 1 / $1", none),
          ("EXECUTE dbmigrate_stmt_2 (%s)", some [.int 1]),
          ("DEALLOCATE dbmigrate_stmt_2", none)] ∧
      (∃ exchanges last after,
        Conversation 1 secondRefused.cursorReplies exchanges last after ∧
        exchanges.map Exchange.sent = runDispatched dividingSteps refusedSession ∧
        ∀ exchange ∈ exchanges, exchange.Orderly) ∧
      ((step ⟨2024, 1, 2, 3, 4, 5, 6⟩
          (.operation (.run (.text "select 1 / ?") (.list [.int 0])))).run refusedSession).failure?
        = some (.report (Adapter.executionReport .postgres "select 1 / $1"
          ⟨"division by zero", .text "22012"⟩)) := by
  have numbered : refusedSession.Numbered 1 secondRefused.cursorReplies :=
    Connect.initial_numbered _ rfl (.inr ⟨rfl, rfl⟩)
  obtain ⟨⟨exchanges, last, after, conversation, all, -, -, orderly⟩, failing⟩ :=
    prepared_statements_are_fresh numbered dividingSteps
  obtain ⟨fails, -⟩ := failing [] ⟨2024, 1, 2, 3, 4, 5, 6⟩
    (.run (.text "select 1 / ?") (.list [.int 0]))
  exact ⟨numbered, rfl, ⟨exchanges, last, after, conversation, all, orderly⟩,
    fails _ List.mem_cons_self _ rfl⟩

end Session

end SchemaChange
