/-
# SchemaChange.Proofs.Session.Dispatched — the statements that are handed on, with their answers

Events show what reaches a connection, not what it answers.  `Session.dispatched` lists the
statements that a script hands on, in order, each with the values that go with it and with
what came of it: the answer of the connection, or the refusal of a connection that has
been closed.  In a dry run, and for a request that cannot be prepared or whose parameters
cannot be listed, nothing is handed on.

* `handedOn_live`, `run_fetch_eq` — what came of a statement is what its request goes on
  with, and a query goes on with the rows of that.
* `answers_perform`, `answers_runAll` — over an open connection, what is handed on is what
  the connection answers, and nothing else reaches it.
-/
import SchemaChange.Proofs.Client.Exchange
import SchemaChange.Proofs.Session.Run

set_option autoImplicit false

namespace SchemaChange

open SchemaChange.Statement (Row)

/-- A statement that was handed on with its values, and what came of it. -/
structure Dispatched where
  sql : String
  values : Option (List Value)
  answer : Attempt Value

namespace Dispatched

/-- Whether a statement was accepted. -/
def isAccepted (sent : Dispatched) : Bool :=
  sent.answer.isOk

/-- The rows that came of a statement. -/
def rows (sent : Dispatched) : Attempt (List Row) :=
  sent.answer.bind Statement.normalizeRows

end Dispatched

/-- A connection answers statements one after the other, with the traffic that comes of them. -/
inductive Link.Answers : Link → List Dispatched → List Event → Link → Prop where
  | nothing (link : Link) : Answers link [] [] link
  | next {link after : Link} {sql : String} {values : Option (List Value)}
      {others : List Dispatched} {events : List Event}
      (rest : Answers ((Link.query sql values).run link).state others events after) :
      Answers link (⟨sql, values, ((Link.query sql values).run link).result⟩ :: others)
        (((Link.query sql values).run link).events ++ events) after

theorem Link.Answers.append {link middle after : Link} {first rest : List Dispatched}
    {events others : List Event} (head : Answers link first events middle)
    (tail : Answers middle rest others after) :
    Answers link (first ++ rest) (events ++ others) after := by
  induction head with
  | nothing link => exact tail
  | next _ ih =>
      rw [List.append_assoc]
      exact .next (ih tail)

theorem traffic_eq_nil {events : List Event} (silent : ∀ event ∈ events, event.isTraffic = false) :
    events.filter Event.isTraffic = [] := by
  rw [List.filter_eq_nil_iff]
  intro event member
  simp [silent event member]

theorem Link.query_traffic (sql : String) (values : Option (List Value)) (link : Link) :
    ((Link.query sql values).run link).events.filter Event.isTraffic
      = ((Link.query sql values).run link).events := by
  rw [List.filter_eq_self]
  intro event member
  exact Event.isTraffic_of_isStatementTraffic (Link.query_isStatementTraffic member)

namespace Session

variable {α : Type} {session : Session} {template params : Value} {sql : String}
  {values : Option (List Value)}

/-! ## A request -/

/-- What a request hands on. -/
def handedOn (template params : Value) (session : Session) : List Dispatched :=
  match Statement.prepare session.engine.dialect template params, parameterValues params with
  | .ok sql, .ok values =>
      if session.dryRun.truthy then []
      else [⟨sql, values, ((dispatch sql values).run session).result⟩]
  | _, _ => []

theorem handedOn_dry (dry : session.dryRun.truthy = true) :
    handedOn template params session = [] := by
  unfold handedOn
  split
  · exact if_pos dry
  · rfl

theorem handedOn_unprepared {failure : Failure}
    (prepared : Statement.prepare session.engine.dialect template params = .error failure) :
    handedOn template params session = [] := by
  unfold handedOn
  rw [prepared]

theorem handedOn_unlisted {failure : Failure} (listed : parameterValues params = .error failure) :
    handedOn template params session = [] := by
  unfold handedOn
  rw [listed]
  cases Statement.prepare session.engine.dialect template params <;> rfl

/-- What came of a statement is what its request goes on with. -/
theorem handedOn_live (live : session.dryRun.truthy = false)
    (prepared : Statement.prepare session.engine.dialect template params = .ok sql)
    (listed : parameterValues params = .ok values) :
    handedOn template params session
      = [⟨sql, values, ((submit template params).run session).result⟩] := by
  have same : session.handle sql values = (dispatch sql values).run session := by
    rw [handle, live]
    rfl
  unfold handedOn
  rw [prepared, listed, run_submit_announced prepared listed, same]
  simp [live]

/-- A query does what its statement does, and answers the rows of what that answers. -/
theorem run_fetch_eq (template params : Value) (session : Session) :
    (fetch template params).run session =
      ⟨((submit template params).run session).result.bind Statement.normalizeRows,
        ((submit template params).run session).events,
        ((submit template params).run session).state⟩ := by
  rw [run_fetch]
  cases result : ((submit template params).run session).result with
  | ok answer =>
      rw [Act.run_bind_ok result]
      simp [Except.bind]
  | error failure =>
      rw [Act.run_bind_error result]
      rfl

/-! ## Scripts -/

/-- The statements that a script hands on, in order. -/
def dispatched : Script α → Session → List Dispatched
  | .done _, _ => []
  | .note _ next, session => dispatched next session
  | .submit template params next, session =>
      handedOn template params session ++
        match ((submit template params).run session).result with
        | .ok value => dispatched (next value) ((submit template params).run session).state
        | .error _ => []
  | .fetch template params next, session =>
      handedOn template params session ++
        match ((fetch template params).run session).result with
        | .ok rows => dispatched (next rows) ((fetch template params).run session).state
        | .error _ => []
  | .askDryRun next, session => dispatched (next session.dryRun.truthy) session

theorem dispatched_notes (notes : List Note) (next : Script α) (session : Session) :
    dispatched (Script.notes notes next) session = dispatched next session := by
  induction notes with
  | nil => rfl
  | cons n notes ih => exact ih

/-! ## Steps and runs -/

/-- The statements that a step hands on. -/
def stepDispatched (now : Timestamp) : Step → Session → List Dispatched
  | .operation operation, session => dispatched (operation.script session.engine now) session
  | .close, _ | .expireCursor, _ => []

/-- The statements that are handed on over a run. -/
def runDispatched : List (Timestamp × Step) → Session → List Dispatched
  | [], _ => []
  | (now, next) :: rest, session =>
      stepDispatched now next session ++ runDispatched rest ((step now next).run session).state

/-! ## What the connection makes of them -/

/-- A statement that is handed on over an open connection is what the connection answers. -/
theorem answers_submit (opened : session.closed = false) (template params : Value) :
    Link.Answers session.link (handedOn template params session)
        (((submit template params).run session).events.filter Event.isTraffic)
        ((submit template params).run session).state.link ∧
      ((submit template params).run session).state.closed = false := by
  have still : ((submit template params).run session).state.closed = false := by
    rw [submit_framed]
    exact opened
  refine ⟨?_, still⟩
  rcases submit_cases template params session with
    ⟨failure, prepared, run⟩ | ⟨sql, failure, -, listed, run⟩ | ⟨sql, values, prepared, listed, run⟩
  · rw [run, handedOn_unprepared prepared]
    exact .nothing session.link
  · rw [run, handedOn_unlisted listed, traffic_eq_nil (session.logging.record_isTraffic sql none)]
    exact .nothing session.link
  · rcases Bool.eq_false_or_eq_true session.dryRun.truthy with dry | live
    · rw [run, handle_dry dry, handedOn_dry dry, List.append_nil,
        traffic_eq_nil (session.logging.record_isTraffic sql values)]
      exact .nothing session.link
    · rw [handedOn_live live prepared listed, run, handle_open live opened, List.filter_append,
        traffic_eq_nil (session.logging.record_isTraffic sql values), Link.query_traffic]
      simpa using Link.Answers.next (.nothing ((Link.query sql values).run session.link).state)

/-- **What a script hands on is what its connection answers**, one statement after the other, and
there is no other traffic. -/
theorem answers_perform (opened : session.closed = false) (script : Script α) :
    Link.Answers session.link (dispatched script session)
      (((perform script).run session).events.filter Event.isTraffic)
      ((perform script).run session).state.link := by
  induction script generalizing session with
  | done outcome => exact .nothing session.link
  | note n next ih =>
      rw [perform, Act.run_bind_ok (by rfl), run_note, List.filter_append,
        traffic_eq_nil (session.logging.note_isTraffic n)]
      exact ih opened
  | submit template params next ih =>
      obtain ⟨here, still⟩ := answers_submit opened template params
      rw [perform, dispatched]
      cases result : ((submit template params).run session).result with
      | ok value =>
          rw [Act.run_bind_ok result, List.filter_append]
          exact here.append (ih value still)
      | error failure =>
          rw [Act.run_bind_error result, List.append_nil]
          exact here
  | fetch template params next ih =>
      obtain ⟨here, still⟩ := answers_submit opened template params
      rw [perform, dispatched]
      cases result : ((fetch template params).run session).result with
      | ok rows =>
          rw [Act.run_bind_ok result, List.filter_append, run_fetch_eq]
          exact here.append (ih rows still)
      | error failure =>
          rw [Act.run_bind_error result, List.append_nil, run_fetch_eq]
          exact here
  | askDryRun next ih =>
      rw [perform, Act.run_get_bind]
      exact ih session.dryRun.truthy opened

/-- What operations hand on over a run is what their connection answers, and there is no other
traffic. -/
theorem answers_runAll (opened : session.closed = false) {steps : List (Timestamp × Step)}
    (operations : ∀ timed ∈ steps, ∃ operation, timed.2 = .operation operation) :
    Link.Answers session.link (runDispatched steps session)
      ((seen steps session).filter Event.isTraffic) (runAll steps session).2.link := by
  induction steps generalizing session with
  | nil => exact .nothing session.link
  | cons head rest ih =>
      obtain ⟨now, next⟩ := head
      obtain ⟨operation, rfl⟩ := operations _ List.mem_cons_self
      have still : ((step now (.operation operation)).run session).state.closed = false := by
        rw [run_step_operation, perform_framed]
        exact opened
      rw [seen_cons, List.filter_append, run_step_operation]
      rw [run_step_operation] at still
      exact (answers_perform opened _).append
        (ih still fun timed member => operations timed (List.mem_cons_of_mem _ member))

end Session

end SchemaChange
