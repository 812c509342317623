/-
# SchemaChange.Proofs.Client.Exchange — what an adapter asks of its cursor for a query

A query is answered by executions: one of the statement itself, or, for PostgreSQL
with values, one each that prepares, executes and releases it
(`Adapter.executions`).  They are conducted in order until one fails (`Conducted`),
each with the next answer of the client library.

* `Conducts.bind` — actions conduct one after the other what each of them conducts.
* `answer_conducted` — an adapter conducts the executions of a query, after making a
  cursor if it needs one, and changes nothing else but its cursor and its counter.
* `query_isStatementTraffic` — so a query does nothing else to a connection.
-/
import SchemaChange.Client.Link

set_option autoImplicit false

namespace SchemaChange

/-- Whether an event is an execution on a cursor or reads from one. -/
def Event.usesCursor : Event → Bool
  | .execute .. | .fetchAll => true
  | _ => false

theorem Event.isStatementTraffic_of_usesCursor {event : Event} (uses : event.usesCursor = true) :
    event.isStatementTraffic = true := by
  cases event with
  | execute sql values => rfl
  | fetchAll => rfl
  | _ => cases uses

/-- An execution that is asked of a cursor, and whether its rows are read. -/
structure Execution where
  sql : String
  params : Option (List Value)
  readsRows : Bool

/-- The next of the answers that are given beforehand, and those after it. -/
def CursorReply.next : List CursorReply → CursorReply × List CursorReply
  | [] => (.answer Adapter.silence, [])
  | reply :: rest => (reply, rest)

namespace Execution

/-- The failure that an answer means for an execution, if it means one. -/
def fault? (engine : Engine) (execution : Execution) : CursorReply → Option AdapterError
  | .refusal error => some (.client error)
  | .withheld error => if execution.readsRows then some (.client error) else none
  | .answer answer =>
      if execution.readsRows && answer.described then
        match Adapter.readRows engine answer.rows with
        | .ok _ => none
        | .error failure => some (.failure failure)
      else none

/-- Whether the rows are fetched after an answer. -/
def fetches (execution : Execution) : CursorReply → Bool
  | .refusal _ => false
  | .withheld _ => execution.readsRows
  | .answer answer => execution.readsRows && answer.described

/-- What is seen of an execution with an answer. -/
def events (execution : Execution) (reply : CursorReply) : List Event :=
  .execute execution.sql execution.params ::
    if execution.fetches reply then [.fetchAll] else []

theorem events_usesCursor {execution : Execution} {reply : CursorReply} {event : Event}
    (member : event ∈ execution.events reply) : event.usesCursor = true := by
  simp only [events, List.mem_cons] at member
  rcases member with rfl | member
  · rfl
  · split at member
    · rw [List.mem_singleton.1 member]
      rfl
    · cases member

end Execution

/-- Executions that are conducted in order, each with the next answer, until one fails: the answers
before, the events, the failure if there is one, and the answers left. -/
inductive Conducted (engine : Engine) :
    List Execution → List CursorReply → List Event → Option AdapterError → List CursorReply → Prop
  | done (replies : List CursorReply) : Conducted engine [] replies [] none replies
  | accepted {execution : Execution} {rest : List Execution} {replies after : List CursorReply}
      {events : List Event} {fault : Option AdapterError}
      (fine : execution.fault? engine (CursorReply.next replies).1 = none)
      (others : Conducted engine rest (CursorReply.next replies).2 events fault after) :
      Conducted engine (execution :: rest) replies
        (execution.events (CursorReply.next replies).1 ++ events) fault after
  | failed {execution : Execution} {rest : List Execution} {replies : List CursorReply}
      {fault : AdapterError}
      (here : execution.fault? engine (CursorReply.next replies).1 = some fault) :
      Conducted engine (execution :: rest) replies
        (execution.events (CursorReply.next replies).1) (some fault) (CursorReply.next replies).2

namespace Conducted

variable {engine : Engine} {first rest : List Execution}
  {before middle after : List CursorReply} {events more : List Event}

/-- A single execution, with the failure that its answer means. -/
theorem one (engine : Engine) (execution : Execution) (replies : List CursorReply) :
    Conducted engine [execution] replies (execution.events (CursorReply.next replies).1)
      (execution.fault? engine (CursorReply.next replies).1) (CursorReply.next replies).2 := by
  cases fault : execution.fault? engine (CursorReply.next replies).1 with
  | none =>
      rw [← List.append_nil (execution.events _)]
      exact .accepted fault (.done _)
  | some failure => exact .failed fault

theorem append {fault : Option AdapterError} (head : Conducted engine first before events none middle)
    (tail : Conducted engine rest middle more fault after) :
    Conducted engine (first ++ rest) before (events ++ more) fault after := by
  generalize ended : (none : Option AdapterError) = ending at head
  induction head with
  | done replies => exact tail
  | accepted fine others ih =>
      rw [List.cons_append, List.append_assoc]
      exact .accepted fine (ih tail ended)
  | failed here => cases ended

theorem append_failed {fault : AdapterError} (rest : List Execution)
    (head : Conducted engine first before events (some fault) after) :
    Conducted engine (first ++ rest) before events (some fault) after := by
  generalize ended : some fault = ending at head ⊢
  induction head with
  | done replies => cases ended
  | accepted fine others ih => exact .accepted fine (ih ended)
  | failed here => exact .failed here

theorem usesCursor {fault : Option AdapterError} {event : Event}
    (conducted : Conducted engine first before events fault after) (member : event ∈ events) :
    event.usesCursor = true := by
  induction conducted with
  | done replies => cases member
  | accepted fine others ih =>
      rcases List.mem_append.1 member with here | later
      · exact Execution.events_usesCursor here
      · exact ih later
  | failed here => exact Execution.events_usesCursor member

theorem isStatementTraffic {fault : Option AdapterError} {event : Event}
    (conducted : Conducted engine first before events fault after) (member : event ∈ events) :
    event.isStatementTraffic = true :=
  Event.isStatementTraffic_of_usesCursor (conducted.usesCursor member)

end Conducted

namespace Adapter

variable {α β : Type}

/-- What an execution has at its cursor for an answer. -/
def atCursor : CursorReply → Except AdapterError (Except ClientError CursorAnswer)
  | .answer answer => .ok (.ok answer)
  | .withheld error => .ok (.error error)
  | .refusal error => .error (.client error)

theorem run_execute (sql : String) (params : Option (List Value)) (adapter : Adapter) :
    (execute sql params).run adapter =
      ⟨atCursor (CursorReply.next adapter.replies).1, [.execute sql params],
        { adapter with replies := (CursorReply.next adapter.replies).2 }⟩ := by
  obtain ⟨engine, replies, cursor, number⟩ := adapter
  cases replies with
  | nil => rfl
  | cons reply rest => cases reply <;> rfl

/-- Reading the result of an execution changes nothing, and shows what it reads and where it
fails. -/
theorem run_readResult (sql : String) (params : Option (List Value)) (reply : CursorReply)
    (adapter : Adapter) {atHand : Except ClientError CursorAnswer} (given : atCursor reply = .ok atHand) :
    .execute sql params :: ((readResult atHand).run adapter).events
        = (Execution.mk sql params true).events reply ∧
      ((readResult atHand).run adapter).failure?
        = (Execution.mk sql params true).fault? adapter.engine reply ∧
      ((readResult atHand).run adapter).state = adapter := by
  cases reply with
  | refusal error => cases given
  | withheld error =>
      cases given
      exact ⟨rfl, rfl, rfl⟩
  | answer answer =>
      cases given
      obtain ⟨rows, described, rowcount⟩ := answer
      cases described with
      | false => exact ⟨rfl, rfl, rfl⟩
      | true =>
          simp only [readResult, if_true, Act.run_emit_bind, Act.run_get_bind]
          simp only [Execution.fault?, Execution.events, Execution.fetches, Bool.and_self, if_true]
          cases readRows adapter.engine rows with
          | ok read => exact ⟨rfl, rfl, rfl⟩
          | error failure => exact ⟨rfl, rfl, rfl⟩

/-! ## Actions that conduct executions -/

/-- From every adapter an action conducts the executions and changes nothing but the answers that
are left. -/
def Conducts (act : Doing α) (executions : List Execution) : Prop :=
  ∀ adapter, ∃ replies,
    Conducted adapter.engine executions adapter.replies (act.run adapter).events
      (act.run adapter).failure? replies ∧
    (act.run adapter).state = { adapter with replies := replies }

namespace Conducts

theorem pure (a : α) : Conducts (Pure.pure a) [] :=
  fun adapter => ⟨adapter.replies, .done _, rfl⟩

theorem bind {first : Doing α} {next : α → Doing β} {here there : List Execution}
    (head : Conducts first here) (tail : ∀ a, Conducts (next a) there) :
    Conducts (first >>= next) (here ++ there) := by
  intro adapter
  obtain ⟨middle, conducted, state⟩ := head adapter
  unfold Outcome.failure? at conducted
  cases result : (first.run adapter).result with
  | ok a =>
      rw [result] at conducted
      obtain ⟨replies, rest, last⟩ := tail a (first.run adapter).state
      rw [Act.run_bind_ok result]
      refine ⟨replies, ?_, ?_⟩
      · rw [state] at rest ⊢
        exact conducted.append rest
      · show ((next a).run (first.run adapter).state).state = _
        rw [last, state]
  | error fault =>
      rw [result] at conducted
      rw [Act.run_bind_error result]
      exact ⟨middle, conducted.append_failed there, state⟩

/-- An execution whose answer is not looked at. -/
theorem execute (sql : String) (params : Option (List Value)) :
    Conducts (Adapter.execute sql params) [⟨sql, params, false⟩] := by
  intro adapter
  refine ⟨(CursorReply.next adapter.replies).2, ?_, by rw [run_execute]⟩
  have conducted := Conducted.one adapter.engine ⟨sql, params, false⟩ adapter.replies
  rw [run_execute]
  revert conducted
  cases (CursorReply.next adapter.replies).1 <;> exact id

/-- An execution whose rows are read. -/
theorem read (sql : String) (params : Option (List Value)) :
    Conducts (Adapter.execute sql params >>= readResult) [⟨sql, params, true⟩] := by
  intro adapter
  have conducted := Conducted.one adapter.engine ⟨sql, params, true⟩ adapter.replies
  have executed := run_execute sql params adapter
  refine ⟨(CursorReply.next adapter.replies).2, ?_⟩
  generalize (CursorReply.next adapter.replies).1 = reply at conducted executed
  cases given : atCursor reply with
  | error fault =>
      rw [given] at executed
      rw [Act.run_bind_error (by rw [executed]), executed]
      refine ⟨?_, rfl⟩
      cases reply with
      | refusal error =>
          cases given
          exact conducted
      | _ => cases given
  | ok atHand =>
      rw [given] at executed
      rw [Act.run_bind_ok (by rw [executed]), executed]
      obtain ⟨seen, ending, same⟩ := run_readResult sql params reply
        { adapter with replies := (CursorReply.next adapter.replies).2 } given
      refine ⟨?_, same⟩
      rw [← seen, ← ending] at conducted
      exact conducted

end Conducts

/-! ## Queries -/

/-- The executions that prepare a statement under a number, execute it with values and release
it. -/
def preparedExecutions (number : Nat) (sql : String) (values : List Value) : List Execution :=
  let name := statementName number
  [⟨prepareCommand name sql, none, false⟩,
    ⟨executeCommand name values.length, some values, true⟩,
    ⟨releaseCommand name, none, false⟩]

/-- The executions that answer a query; no values are like an empty list of them. -/
def executions (adapter : Adapter) (sql : String) (params : Option (List Value)) : List Execution :=
  match params with
  | none | some [] => [⟨sql, none, true⟩]
  | some (value :: values) =>
      match adapter.engine with
      | .postgres => preparedExecutions adapter.nextStatement sql (value :: values)
      | _ => [⟨sql, some (value :: values), true⟩]

/-- Whether a query of an adapter takes a number for a prepared statement. -/
def prepares (engine : Engine) : Option (List Value) → Bool
  | some (_ :: _) => engine == .postgres
  | _ => false

/-- An adapter when it starts to execute: it has a cursor that it can use, or keeps. -/
def ready (adapter : Adapter) : Adapter :=
  if adapter.needsCursor then { adapter with cursor := some .usable } else adapter

/-- The making of a cursor, if one is needed. -/
def cursorEvents (adapter : Adapter) : List Event :=
  if adapter.needsCursor then [.cursor adapter.engine] else []

theorem run_ensureCursor (adapter : Adapter) :
    ensureCursor.run adapter = ⟨.ok (), adapter.cursorEvents, adapter.ready⟩ := by
  simp only [ensureCursor, Act.run_get_bind, cursorEvents, ready]
  split <;> rfl

theorem ready_engine (adapter : Adapter) : adapter.ready.engine = adapter.engine := by
  unfold ready
  split <;> rfl

theorem ready_replies (adapter : Adapter) : adapter.ready.replies = adapter.replies := by
  unfold ready
  split <;> rfl

theorem ready_nextStatement (adapter : Adapter) :
    adapter.ready.nextStatement = adapter.nextStatement := by
  unfold ready
  split <;> rfl

theorem ready_executions (sql : String) (params : Option (List Value)) (adapter : Adapter) :
    adapter.ready.executions sql params = adapter.executions sql params := by
  unfold executions
  rw [ready_engine, ready_nextStatement]

/-- Under its number, a prepared statement is prepared, executed and released. -/
theorem run_executePrepared (sql : String) (values : List Value) (adapter : Adapter) :
    ∃ act, Conducts act (preparedExecutions adapter.nextStatement sql values) ∧
      (executePrepared sql values).run adapter
        = act.run { adapter with nextStatement := adapter.nextStatement + 1 } := by
  let name := statementName adapter.nextStatement
  refine ⟨execute (prepareCommand name sql) none >>= fun _ =>
    (execute (executeCommand name values.length) (some values) >>= readResult) >>= fun result =>
      execute (releaseCommand name) none >>= fun _ => pure result, ?_, ?_⟩
  · exact .bind (.execute _ _) fun _ => .bind (.read _ _) fun result =>
      .bind (.execute _ _) fun _ => .pure result
  · rw [executePrepared, Act.run_bind_ok (by rfl)]
    simp only [Act.bind_assoc]
    rfl

/-- In the way of its engine an adapter conducts the executions of a query. -/
theorem run_executeFor (sql : String) (params : Option (List Value)) (adapter : Adapter) :
    ∃ act, Conducts act (adapter.executions sql params) ∧
      (executeFor adapter.engine sql params).run adapter = act.run { adapter with
        nextStatement := adapter.nextStatement + (prepares adapter.engine params).toNat } := by
  obtain ⟨engine, replies, cursor, number⟩ := adapter
  cases params with
  | none => exact ⟨_, .read sql none, rfl⟩
  | some values =>
      cases values with
      | nil => exact ⟨_, .read sql none, rfl⟩
      | cons value values =>
          cases engine with
          | postgres =>
              exact run_executePrepared sql (value :: values) ⟨.postgres, replies, cursor, number⟩
          | mysql => exact ⟨_, .read sql (some (value :: values)), rfl⟩
          | sqlite => exact ⟨_, .read sql (some (value :: values)), rfl⟩

/-- **A query conducts its executions**, after the making of a cursor if there is none to use, and
leaves the answers that they leave. -/
theorem answer_conducted (sql : String) (params : Option (List Value)) (adapter : Adapter) :
    ∃ events replies,
      ((answer sql params).run adapter).events = adapter.cursorEvents ++ events ∧
      Conducted adapter.engine (adapter.executions sql params) adapter.replies events
        ((answer sql params).run adapter).failure? replies ∧
      ((answer sql params).run adapter).state =
        { adapter.ready with
          replies := replies
          nextStatement := adapter.nextStatement + (prepares adapter.engine params).toNat } := by
  obtain ⟨act, conducts, same⟩ := run_executeFor sql params adapter.ready
  obtain ⟨replies, conducted, state⟩ := conducts { adapter.ready with
    nextStatement := adapter.ready.nextStatement + (prepares adapter.ready.engine params).toNat }
  have answered : (answer sql params).run adapter =
      ⟨((executeFor adapter.ready.engine sql params).run adapter.ready).result,
        adapter.cursorEvents ++ ((executeFor adapter.ready.engine sql params).run adapter.ready).events,
        ((executeFor adapter.ready.engine sql params).run adapter.ready).state⟩ := by
    rw [answer, Act.run_bind_ok (by rw [run_ensureCursor]), run_ensureCursor, Act.run_get_bind]
  rw [← ready_executions, ← ready_engine, ← ready_replies, ← ready_nextStatement, answered, same]
  exact ⟨_, replies, rfl, conducted, state⟩

theorem eq_cursor_of_mem {adapter : Adapter} {event : Event}
    (made : event ∈ adapter.cursorEvents) : event = .cursor adapter.engine := by
  unfold cursorEvents at made
  split at made
  · exact List.mem_singleton.1 made
  · cases made

theorem cursorEvents_isStatementTraffic (adapter : Adapter) :
    ∀ event ∈ adapter.cursorEvents, event.isStatementTraffic = true := by
  intro event made
  rw [eq_cursor_of_mem made]
  rfl

/-- A query is nothing but statement traffic. -/
theorem query_isStatementTraffic {sql : String} {params : Option (List Value)} {adapter : Adapter}
    {event : Event} (member : event ∈ ((query sql params).run adapter).events) :
    event.isStatementTraffic = true := by
  obtain ⟨events, replies, seen, conducted, -⟩ := answer_conducted sql params adapter
  have member : event ∈ ((answer sql params).run adapter).events := member
  rw [seen] at member
  rcases List.mem_append.1 member with made | later
  · exact adapter.cursorEvents_isStatementTraffic event made
  · exact conducted.isStatementTraffic later

theorem query_engine (sql : String) (params : Option (List Value)) (adapter : Adapter) :
    ((query sql params).run adapter).state.engine = adapter.engine := by
  obtain ⟨events, replies, -, -, state⟩ := answer_conducted sql params adapter
  show ((answer sql params).run adapter).state.engine = adapter.engine
  rw [state]
  exact ready_engine adapter

end Adapter

namespace Link

/-- **A query does nothing to a connection but hand it statements and read from it.** -/
theorem query_isStatementTraffic {sql : String} {params : Option (List Value)} {link : Link}
    {event : Event} (member : event ∈ ((query sql params).run link).events) :
    event.isStatementTraffic = true := by
  cases link with
  | plain replies =>
      rw [List.mem_singleton.1 member]
      rfl
  | adapter own => exact Adapter.query_isStatementTraffic member
  | bare value => cases member

end Link

end SchemaChange
