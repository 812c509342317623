/-
# SchemaChange.Proofs.Session.Run — how requests, scripts and steps run

A request is prepared, logged and dispatched in this order, and each of the three
can end it: `submit_cases` lists its three runs, and proofs about sessions use nothing
else of a request.  A query is a statement whose result is read as rows (`run_fetch`),
so what holds of statements holds of queries.

* `perform_follows` — a script follows a sequential rule that notes and statements
  follow.
* `perform_framed`, `runAll_closed` — a script changes nothing of a session but its
  connection, and a run besides that only whether it is closed.
* `runAll_append`, `runAll_invariant` — steps run one after the other, and keep what
  each of them keeps.
-/
import SchemaChange.Proofs.Act.Rule
import SchemaChange.Session.Basic

set_option autoImplicit false

namespace SchemaChange

/-- Whether a step asks for the end of the connection. -/
def Step.isClose : Step → Bool
  | .close => true
  | .operation _ | .expireCursor => false

namespace Logging

/-- The records of a statement with the values of its parameters, if it has any. -/
def record (logging : Logging) (sql : String) (values : Option (List Value)) : List Event :=
  logging.statement sql ++
    match values with
    | some values => logging.parameters values
    | none => []

theorem record_isTraffic (logging : Logging) (sql : String) (values : Option (List Value)) :
    ∀ event ∈ logging.record sql values, event.isTraffic = false := by
  intro event member
  cases values <;> simp only [record, statement, parameters, List.append_nil, List.mem_append] at member
  · split at member <;> simp_all [Event.isTraffic]
  · rcases member with member | member <;> split at member <;> simp_all [Event.isTraffic]

theorem note_isTraffic (logging : Logging) (n : Note) :
    ∀ event ∈ logging.note n, event.isTraffic = false := by
  intro event member
  simp only [note] at member
  split at member <;> simp_all [Event.isTraffic]

end Logging

namespace Session

open SchemaChange.Statement (Row)

variable {α β : Type}

/-! ## A request -/

theorem run_note (n : Note) (session : Session) :
    (note n).run session = ⟨.ok (), session.logging.note n, session⟩ := rfl

/-- A template that cannot be prepared is not even logged. -/
theorem run_submit_unprepared {session : Session} {template params : Value} {failure : Failure}
    (prepared : Statement.prepare session.engine.dialect template params = .error failure) :
    (submit template params).run session = ⟨.error failure, [], session⟩ := by
  have announced : (announce template params).run session = ⟨.error failure, [], session⟩ := by
    rw [announce, Act.run_get_bind, Act.run_lift_bind_error prepared]
  rw [submit, Act.run_bind_error (by rw [announced]), announced]

/-- A statement whose parameters cannot be listed is logged without them and goes no further. -/
theorem run_submit_unlisted {session : Session} {template params : Value} {sql : String}
    {failure : Failure}
    (prepared : Statement.prepare session.engine.dialect template params = .ok sql)
    (listed : parameterValues params = .error failure) :
    (submit template params).run session
      = ⟨.error failure, session.logging.statement sql, session⟩ := by
  have announced : (announce template params).run session
      = ⟨.error failure, session.logging.statement sql, session⟩ := by
    rw [announce, Act.run_get_bind, Act.run_lift_bind_ok prepared, Act.run_emit_bind,
      Act.run_lift_bind_error listed]
    simp
  rw [submit, Act.run_bind_error (by rw [announced]), announced]

/-- What follows the record of a statement. -/
def handle (session : Session) (sql : String) (values : Option (List Value)) :
    Outcome Failure Session Event Value :=
  if session.dryRun.truthy then ⟨.ok .null, [], session⟩
  else (dispatch sql values).run session

/-- A statement that has been recorded with its parameters is dispatched, unless this is a dry
run. -/
theorem run_submit_announced {session : Session} {template params : Value} {sql : String}
    {values : Option (List Value)}
    (prepared : Statement.prepare session.engine.dialect template params = .ok sql)
    (listed : parameterValues params = .ok values) :
    (submit template params).run session =
      ⟨(session.handle sql values).result,
        session.logging.record sql values ++ (session.handle sql values).events,
        (session.handle sql values).state⟩ := by
  have announced : (announce template params).run session
      = ⟨.ok (sql, values), session.logging.record sql values, session⟩ := by
    rw [announce, Act.run_get_bind, Act.run_lift_bind_ok prepared, Act.run_emit_bind,
      Act.run_lift_bind_ok listed]
    cases values <;> simp [Act.run_emit_bind, Logging.record]
  rw [submit, Act.run_bind_ok (by rw [announced]), announced, handle]
  simp only [Act.run_get_bind]
  split <;> rfl

theorem handle_dry {session : Session} (dry : session.dryRun.truthy = true) (sql : String)
    (values : Option (List Value)) : session.handle sql values = ⟨.ok .null, [], session⟩ :=
  if_pos dry

theorem handle_closed {session : Session} (live : session.dryRun.truthy = false)
    (closed : session.closed = true) (sql : String) (values : Option (List Value)) :
    session.handle sql values
      = ⟨.error (.report (closedReport session.engine)), [], session⟩ := by
  rw [handle, live]
  simp [dispatch, closed]

theorem handle_open {session : Session} (live : session.dryRun.truthy = false)
    (opened : session.closed = false) (sql : String) (values : Option (List Value)) :
    session.handle sql values =
      ⟨((Link.query sql values).run session.link).result,
        ((Link.query sql values).run session.link).events,
        { session with link := ((Link.query sql values).run session.link).state }⟩ := by
  rw [handle, live]
  simp [dispatch, opened, Act.onPart]

/-- The three ways in which a statement can go. -/
theorem submit_cases (template params : Value) (session : Session) :
    (∃ failure, Statement.prepare session.engine.dialect template params = .error failure ∧
      (submit template params).run session = ⟨.error failure, [], session⟩) ∨
    (∃ sql failure, Statement.prepare session.engine.dialect template params = .ok sql ∧
      parameterValues params = .error failure ∧
      (submit template params).run session
        = ⟨.error failure, session.logging.record sql none, session⟩) ∨
    ∃ sql values, Statement.prepare session.engine.dialect template params = .ok sql ∧
      parameterValues params = .ok values ∧
      (submit template params).run session =
        ⟨(session.handle sql values).result,
          session.logging.record sql values ++ (session.handle sql values).events,
          (session.handle sql values).state⟩ := by
  cases prepared : Statement.prepare session.engine.dialect template params with
  | error failure => exact .inl ⟨failure, rfl, run_submit_unprepared prepared⟩
  | ok sql =>
      cases listed : parameterValues params with
      | error failure =>
          refine .inr (.inl ⟨sql, failure, rfl, rfl, ?_⟩)
          rw [run_submit_unlisted prepared listed, Logging.record, List.append_nil]
      | ok values =>
          exact .inr (.inr ⟨sql, values, rfl, rfl, run_submit_announced prepared listed⟩)

/-- A query is a statement whose result is read as rows, also in a dry run, whose stand-in result
has none. -/
theorem run_fetch (template params : Value) (session : Session) :
    (fetch template params).run session =
      (submit template params >>= fun answer =>
        (liftM (Statement.normalizeRows answer) : Doing (List Row))).run session := by
  rw [fetch, submit, Act.bind_assoc]
  cases announced : ((announce template params).run session).result with
  | error failure => rw [Act.run_bind_error announced, Act.run_bind_error announced]
  | ok recorded =>
      obtain ⟨sql, values⟩ := recorded
      rw [Act.run_bind_ok announced, Act.run_bind_ok announced]
      simp only [Act.bind_assoc, Act.run_get_bind]
      split
      · rfl
      · rfl

/-! ## Scripts -/

section Rules

variable {rule : Act.Rule Failure Session Event}

theorem fetch_follows (sequential : rule.Sequential) (template params : Value)
    (statement : (submit template params).Follows rule) : (fetch template params).Follows rule := by
  intro session
  rw [run_fetch]
  exact Act.Follows.bind sequential statement (fun answer => Act.Follows.done sequential _) session

/-- **Scripts follow what notes and statements follow.** -/
theorem perform_follows (sequential : rule.Sequential) (notes : ∀ n, (note n).Follows rule)
    (statements : ∀ template params, (submit template params).Follows rule) (script : Script α) :
    (perform script).Follows rule := by
  induction script with
  | done outcome => exact Act.Follows.done sequential outcome
  | note n next ih => exact Act.Follows.bind sequential (notes n) fun _ => ih
  | submit template params next ih =>
      exact Act.Follows.bind sequential (statements template params) ih
  | fetch template params next ih =>
      exact Act.Follows.bind sequential
        (fetch_follows sequential template params (statements template params)) ih
  | askDryRun next ih =>
      intro session
      simp only [perform, Act.run_get_bind]
      exact ih session.dryRun.truthy session

end Rules

/-- What happens changes nothing of a session but its connection. -/
def Framed : Act.Rule Failure Session Event := fun before _ _ after =>
  after = { before with link := after.link }

theorem framed_sequential : Framed.Sequential where
  still _ _ := rfl
  append := by
    intro before middle after first rest _ head tail
    show after = _
    rw [tail, head]

theorem note_framed (n : Note) : (note n).Follows Framed :=
  fun _ => rfl

theorem handle_framed (session : Session) (sql : String) (values : Option (List Value)) :
    (session.handle sql values).state =
      { session with link := (session.handle sql values).state.link } := by
  rcases Bool.eq_false_or_eq_true session.dryRun.truthy with dry | live
  · rw [handle_dry dry]
  · rcases Bool.eq_false_or_eq_true session.closed with closed | opened
    · rw [handle_closed live closed]
    · rw [handle_open live opened]

theorem submit_framed (template params : Value) : (submit template params).Follows Framed := by
  intro session
  rcases submit_cases template params session with
    ⟨failure, -, run⟩ | ⟨sql, failure, -, -, run⟩ | ⟨sql, values, -, -, run⟩
  · rw [run]
    rfl
  · rw [run]
    rfl
  · rw [run]
    exact handle_framed session sql values

theorem fetch_framed (template params : Value) : (fetch template params).Follows Framed :=
  fetch_follows framed_sequential template params (submit_framed template params)

/-- A script changes nothing of a session but its connection. -/
theorem perform_framed (script : Script α) (session : Session) :
    ((perform script).run session).state =
      { session with link := ((perform script).run session).state.link } :=
  perform_follows framed_sequential note_framed submit_framed script session

/-! ## Steps -/

theorem run_step_operation (now : Timestamp) (operation : Operation) (session : Session) :
    (step now (.operation operation)).run session
      = (perform (operation.script session.engine now)).run session := by
  rw [step, Act.run_get_bind]

theorem run_step_close (now : Timestamp) (session : Session) :
    (step now .close).run session =
      ⟨(close.run session).result.map fun _ => .null, (close.run session).events,
        (close.run session).state⟩ := by
  rw [step, Act.run_bind_pure]

theorem run_step_expireCursor (now : Timestamp) (session : Session) :
    (step now .expireCursor).run session
      = ⟨.ok .null, [], { session with link := session.link.expireCursor }⟩ := rfl

/-- A step changes nothing of a session but its connection and whether that is closed, which it is
after a close and stays. -/
theorem step_closed (now : Timestamp) (next : Step) (session : Session) :
    ((step now next).run session).state =
      { session with
        closed := session.closed || next.isClose
        link := ((step now next).run session).state.link } := by
  cases next with
  | operation operation =>
      rw [run_step_operation, Step.isClose, Bool.or_false]
      exact perform_framed _ session
  | expireCursor =>
      rw [run_step_expireCursor, Step.isClose, Bool.or_false]
  | close =>
      rw [run_step_close, Step.isClose, Bool.or_true]
      rcases Bool.eq_false_or_eq_true session.closed with closed | opened
      · rw [run_close_of_closed closed, ← closed]
      · rw [run_close_of_open opened]

theorem runAll_append (first rest : List (Timestamp × Step)) (session : Session) :
    runAll (first ++ rest) session =
      ((runAll first session).1 ++ (runAll rest (runAll first session).2).1,
        (runAll rest (runAll first session).2).2) := by
  induction first generalizing session with
  | nil => rfl
  | cons head first ih =>
      obtain ⟨now, next⟩ := head
      simp only [List.cons_append, runAll, ih]

/-- A run changes nothing of a session but its connection and whether that is closed. -/
theorem runAll_closed (steps : List (Timestamp × Step)) (session : Session) :
    (runAll steps session).2 =
      { session with
        closed := session.closed || steps.any fun timed => timed.2.isClose
        link := (runAll steps session).2.link } := by
  induction steps generalizing session with
  | nil => simp [runAll]
  | cons head rest ih =>
      obtain ⟨now, next⟩ := head
      rw [runAll, ih, step_closed]
      simp [Bool.or_assoc]

/-- What happens over a run. -/
def seen (steps : List (Timestamp × Step)) (session : Session) : List Event :=
  (runAll steps session).1.flatMap fun outcome => outcome.events

theorem seen_cons (now : Timestamp) (next : Step) (rest : List (Timestamp × Step))
    (session : Session) :
    seen ((now, next) :: rest) session =
      ((step now next).run session).events ++ seen rest ((step now next).run session).state := by
  simp [seen, runAll]

/-- What every admitted step keeps, every run of admitted steps keeps. -/
theorem runAll_invariant (invariant : Session → Prop) (admitted : Step → Prop)
    (keeps : ∀ session, invariant session → ∀ now next, admitted next →
      invariant ((step now next).run session).state)
    {steps : List (Timestamp × Step)} (all : ∀ timed ∈ steps, admitted timed.2)
    {session : Session} (initial : invariant session) : invariant (runAll steps session).2 := by
  induction steps generalizing session with
  | nil => exact initial
  | cons head rest ih =>
      obtain ⟨now, next⟩ := head
      have here := keeps session initial now next (all _ List.mem_cons_self)
      exact ih (fun timed member => all timed (List.mem_cons_of_mem _ member)) here

end Session

end SchemaChange
