/-
# SchemaChange.Proofs.Session.Queries — a query is a statement whose answer is read as rows

A session submits statements and queries on two paths of their own, each of which prepares, logs
and dispatches, and only the second reads rows.  The paths agree in every session, whether it is
open, closed or dry, and for all parameters and replies.

* `fetch_eq_ok_iff`, `fetch_eq_error_iff` — what a query answers and how it fails.
* `runAll_query` — in a run, a statement that is asked as a query changes its own answer and nothing
  else, before or after.
* `readAsRows_idempotent` — rows that have been read are read as they are.
* `queries_read_what_statements_answer` — all of this.
-/
import SchemaChange.Proofs.Session.Dispatched
import SchemaChange.Proofs.Session.Opening

set_option autoImplicit false

namespace SchemaChange

open SchemaChange.Statement (Row normalizeRows rowsValue)

/-- What an answer comes to when it is read as rows. -/
def Statement.readAsRows (answer : Value) : Attempt Value :=
  (normalizeRows answer).map rowsValue

/-- Rows that have been read are read as they are. -/
theorem Statement.readAsRows_idempotent {answer rows : Value} (read : readAsRows answer = .ok rows) :
    readAsRows rows = .ok rows := by
  unfold readAsRows at read
  cases normal : normalizeRows answer with
  | error failure =>
      rw [normal] at read
      cases read
  | ok listed =>
      rw [normal] at read
      cases read
      rw [readAsRows, normalizeRows_rowsValue]
      rfl

namespace Session

open SchemaChange.Statement (readAsRows)

variable {template params : Value} {session : Session}

/-! ## A query -/

/-- A query answers the rows of what its statement answers. -/
theorem fetch_eq_ok_iff {rows : List Row} :
    ((fetch template params).run session).result = .ok rows ↔
      ∃ answer, ((submit template params).run session).result = .ok answer ∧
        normalizeRows answer = .ok rows := by
  rw [run_fetch_eq]
  cases ((submit template params).run session).result with
  | ok answer => simp [Except.bind]
  | error failure => simp [Except.bind]

/-- A query fails as its statement does, or as the reading of its rows. -/
theorem fetch_eq_error_iff {failure : Failure} :
    ((fetch template params).run session).result = .error failure ↔
      ((submit template params).run session).result = .error failure ∨
        ∃ answer, ((submit template params).run session).result = .ok answer ∧
          normalizeRows answer = .error failure := by
  rw [run_fetch_eq]
  cases ((submit template params).run session).result with
  | ok answer => simp [Except.bind]
  | error failure => simp [Except.bind]

/-! ## Runs -/

/-- A step that asks a query is the step that runs its statement, with the rows of its answer. -/
theorem run_step_query (now : Timestamp) (template params : Value) (session : Session) :
    (step now (.operation (.query template params))).run session =
      { (step now (.operation (.run template params))).run session with
        result := ((step now (.operation (.run template params))).run session).result.bind
          readAsRows } := by
  have asked : (step now (.operation (.query template params))).run session =
      (fetch template params >>= fun rows => pure (rowsValue rows)).run session := by
    rw [run_step_operation]
    rfl
  have stated : (step now (.operation (.run template params))).run session =
      (submit template params).run session := by
    rw [run_step_operation]
    exact congrArg (fun act => Act.run act session) (Act.bind_pure (submit template params))
  rw [asked, stated]
  cases result : ((fetch template params).run session).result with
  | ok rows =>
      obtain ⟨answer, answered, read⟩ := fetch_eq_ok_iff.1 result
      rw [Act.run_bind_ok result, run_fetch_eq, answered]
      simp [Except.bind, readAsRows, read, Except.map]
  | error failure =>
      rw [Act.run_bind_error result, run_fetch_eq]
      rcases fetch_eq_error_iff.1 result with refused | ⟨answer, answered, unread⟩
      · rw [refused]
        rfl
      · rw [answered]
        simp [Except.bind, readAsRows, unread, Except.map]

/-- **A statement of a run that is asked as a query changes nothing but its own answer**, which is
then read as rows. -/
theorem runAll_query (earlier later : List (Timestamp × Step)) (now : Timestamp)
    (template params : Value) (session : Session) :
    ∃ before outcome after last, before.length = earlier.length ∧
      runAll (earlier ++ (now, .operation (.run template params)) :: later) session
        = (before ++ outcome :: after, last) ∧
      runAll (earlier ++ (now, .operation (.query template params)) :: later) session
        = (before ++ { outcome with result := outcome.result.bind readAsRows } :: after, last) := by
  have length (steps : List (Timestamp × Step)) (session : Session) :
      (runAll steps session).1.length = steps.length := by
    induction steps generalizing session with
    | nil => rfl
    | cons head rest ih => simp [runAll, ih]
  let before := runAll earlier session
  let outcome := (step now (.operation (.run template params))).run before.2
  let after := runAll later outcome.state
  refine ⟨before.1, outcome, after.1, after.2, length earlier session, ?_, ?_⟩
  · rw [runAll_append, runAll]
  · rw [runAll_append, runAll, run_step_query]

/-- **A query is a statement whose answer is read as rows.**  In every session, open or closed, live
or dry, a query leaves the same records and traffic in the same order and the same session as its
statement; it fails where the statement fails, with the same failure, or where the reading of rows
does; and otherwise it answers the rows that are read.  So over a run, a statement that is asked as
a query changes nothing but its own answer.  Rows that have been read are read as they are. -/
theorem queries_read_what_statements_answer :
    (∀ (session : Session) (template params : Value),
      let query := (fetch template params).run session
      let statement := (submit template params).run session
      query.events = statement.events ∧ query.state = statement.state ∧
        (∀ failure, query.result = .error failure ↔
          statement.result = .error failure ∨
            ∃ answer, statement.result = .ok answer ∧ normalizeRows answer = .error failure) ∧
        ∀ rows, query.result = .ok rows ↔
          ∃ answer, statement.result = .ok answer ∧ normalizeRows answer = .ok rows) ∧
    (∀ (earlier later : List (Timestamp × Step)) (now : Timestamp) (template params : Value)
        (session : Session), ∃ before outcome after last, before.length = earlier.length ∧
      runAll (earlier ++ (now, .operation (.run template params)) :: later) session
        = (before ++ outcome :: after, last) ∧
      runAll (earlier ++ (now, .operation (.query template params)) :: later) session
        = (before ++ { outcome with result := outcome.result.bind readAsRows } :: after, last)) ∧
    ∀ answer rows, readAsRows answer = .ok rows → readAsRows rows = .ok rows := by
  refine ⟨fun session template params => ?_, runAll_query, fun answer rows =>
    Statement.readAsRows_idempotent⟩
  refine ⟨?_, ?_, fun failure => fetch_eq_error_iff, fun rows => fetch_eq_ok_iff⟩
  · rw [run_fetch_eq]
  · rw [run_fetch_eq]

/-- An answer whose row is a list of pairs, and one whose row cannot be read. -/
def pairedSurroundings : Surroundings :=
  { Connect.quietSurroundings with
    plainReplies :=
      [.answer (.result (.list [.list [.list [.text "a", .int 1]]]) 1),
        .answer (.list [.int 5])] }

/-- A session over a connection that gives these answers. -/
def pairedSession : Session :=
  Connect.initial pairedSurroundings ⟨5, true⟩
    (Connect.plainConfig .mysql (.connection .plain) (.bool false))

theorem queries_read_what_statements_answer_pairs :
    let rows := rowsValue [[(.text "a", .int 1)]]
    let asked := (fetch (.text "select %") (.list [.int 7])).run pairedSession
    readAsRows (.result (.list [.list [.list [.text "a", .int 1]]]) 1) = .ok rows ∧
      readAsRows rows = .ok rows ∧
      asked.events = [.statement "select %%", .parameters [.int 7], .query "select %%" (some [.int 7])] ∧
      ((fetch (.text "select 1") .null).run asked.state).result = .error (.misuse .wrongKind) := by
  intro rows asked
  obtain ⟨requests, -, idempotent⟩ := queries_read_what_statements_answer
  have read : readAsRows (.result (.list [.list [.list [.text "a", .int 1]]]) 1) = .ok rows := rfl
  obtain ⟨events, state, -, -⟩ := requests pairedSession (.text "select %") (.list [.int 7])
  obtain ⟨-, -, fails, -⟩ := requests asked.state (.text "select 1") .null
  refine ⟨read, idempotent _ rows read, events, (fails _).2 (.inr ⟨.list [.int 5], ?_, rfl⟩)⟩
  rfl

end Session

end SchemaChange
