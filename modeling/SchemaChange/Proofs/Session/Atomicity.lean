/-
# SchemaChange.Proofs.Session.Atomicity — a change that fails on its arguments does nothing

A schema change that builds its statements renders all of them before it submits the first
one.  So its failures are of two kinds, whatever session it runs in: the rendering failed,
and then nothing was logged, sent or changed (`step_unrendered`); or a statement was handed
on, and the failure is what came of it (`step_rendered`).  Between two statements nothing
can fail, although PostgreSQL changes a column by several.

* `argument_errors_are_atomic` — a failure that did not come of a statement left the
  session as it was.
-/
import SchemaChange.Proofs.Session.Delivery
import SchemaChange.Proofs.Session.Dispatched
import SchemaChange.Proofs.Session.Preview

set_option autoImplicit false

namespace SchemaChange

namespace Operation

/-- Whether an operation builds its statements from its arguments alone, for every engine. -/
def buildsStatements : Operation → Bool
  | .createTable .. | .dropTable .. | .renameTable .. | .addColumn .. | .removeColumn ..
  | .changeColumn .. | .addIndex .. | .removeIndex .. | .addForeignKey .. | .removeForeignKey ..
  | .insert .. => true
  | _ => false

theorem statements?_of_buildsStatements {operation : Operation}
    (builds : operation.buildsStatements = true) (engine : Engine) :
    ∃ rendering, operation.statements? engine = some rendering := by
  cases operation <;> first | exact ⟨_, rfl⟩ | cases builds

end Operation

namespace Session

variable {session : Session} {failure : Failure}

/-- A text without parameters fails as a statement only by what came of it. -/
theorem submit_text_failure {text : String}
    (failed : ((submit (.text text) .null).run session).result = .error failure) :
    ∃ sent ∈ handedOn (.text text) .null session, sent.answer = .error failure := by
  have prepared := session.engine.prepare_text text
  have listed : parameterValues .null = .ok none := rfl
  rcases Bool.eq_false_or_eq_true session.dryRun.truthy with dry | live
  · rw [run_submit_announced prepared listed, handle_dry dry] at failed
    cases failed
  · rw [handedOn_live live prepared listed]
    exact ⟨_, List.mem_singleton_self _, failed⟩

/-- A script that begins with a text fails by what came of the text, or as what follows does. -/
theorem perform_submit_failure {text : String} {next : Value → Script Value}
    (failed : ((perform (.submit (.text text) .null next)).run session).result = .error failure)
    (later : ∀ value,
      ((perform (next value)).run ((submit (.text text) .null).run session).state).result
        = .error failure →
      ∃ sent ∈ dispatched (next value) ((submit (.text text) .null).run session).state,
        sent.answer = .error failure) :
    ∃ sent ∈ dispatched (.submit (.text text) .null next) session,
      sent.answer = .error failure := by
  rw [perform] at failed
  rw [dispatched]
  cases result : ((submit (.text text) .null).run session).result with
  | ok value =>
      rw [Act.run_bind_ok result] at failed
      obtain ⟨sent, member, same⟩ := later value failed
      exact ⟨sent, List.mem_append_right _ member, same⟩
  | error refused =>
      rw [Act.run_bind_error result] at failed
      cases failed
      obtain ⟨sent, member, same⟩ := submit_text_failure result
      exact ⟨sent, List.mem_append_left _ member, same⟩

/-- A plan fails only by what came of one of its statements. -/
theorem plan_failure {plan : List String}
    (failed : ((perform (Script.runAll plan)).run session).result = .error failure) :
    ∃ sent ∈ dispatched (Script.runAll plan) session, sent.answer = .error failure := by
  induction plan generalizing session with
  | nil => cases failed
  | cons text rest ih =>
      cases rest with
      | nil =>
          refine perform_submit_failure failed ?_
          intro value impossible
          cases impossible
      | cons next rest =>
          rw [Script.runAll_cons] at failed ⊢
          exact perform_submit_failure failed fun _ later => ih later

/-- A change that can be rendered fails only by what came of one of its statements. -/
theorem step_rendered (now : Timestamp) {operation : Operation} {rendering : Noted (List String)}
    {plan : List String} (renders : operation.statements? session.engine = some rendering)
    (rendered : rendering.result = .ok plan)
    (failed : ((step now (.operation operation)).run session).result = .error failure) :
    ∃ sent ∈ stepDispatched now (.operation operation) session, sent.answer = .error failure := by
  rw [run_step_operation, Operation.script_eq_statements renders,
    Script.ofStatements_of_ok rendered, run_perform_notes] at failed
  rw [stepDispatched, Operation.script_eq_statements renders,
    Script.ofStatements_of_ok rendered, dispatched_notes]
  exact plan_failure failed

/-- A change that cannot be rendered leaves its notes and nothing else. -/
theorem step_unrendered (now : Timestamp) {operation : Operation} {rendering : Noted (List String)}
    (renders : operation.statements? session.engine = some rendering)
    (unrendered : rendering.result = .error failure) :
    (step now (.operation operation)).run session
        = ⟨.error failure, rendering.notes.flatMap session.logging.note, session⟩ ∧
      stepDispatched now (.operation operation) session = [] := by
  constructor
  · rw [run_step_operation, Operation.script_eq_statements renders,
      Script.ofStatements_of_error unrendered, run_perform_notes]
    simp [perform]
  · rw [stepDispatched, Operation.script_eq_statements renders,
      Script.ofStatements_of_error unrendered, dispatched_notes]
    rfl

theorem records_notes (notes : List Note) (logging : Logging) :
    records (notes.flatMap logging.note) = [] := by
  induction notes with
  | nil => rfl
  | cons n notes ih => rw [List.flatMap_cons, records_append, records_note, ih, List.append_nil]

/-- **A change that fails on its arguments does nothing.**  In every session, open or closed, live
or dry: if a change that builds its statements fails, and not by what came of a statement that it
handed on, then it has logged no statement, nothing has reached the connection, nothing was handed
on, and the session is what it was, with every reply to come.  The failure is that of the
rendering; for PostgreSQL's change of a column, that of reading the description of the column,
which comes before the first statement. -/
theorem argument_errors_are_atomic {operation : Operation}
    (builds : operation.buildsStatements = true) (now : Timestamp)
    (failed : ((step now (.operation operation)).run session).result = .error failure)
    (own : ∀ sent ∈ stepDispatched now (.operation operation) session,
      sent.answer ≠ .error failure) :
    let outcome := (step now (.operation operation)).run session
    records outcome.events = [] ∧ (∀ event ∈ outcome.events, event.isTraffic = false) ∧
      stepDispatched now (.operation operation) session = [] ∧ outcome.state = session ∧
      (∃ rendering, operation.statements? session.engine = some rendering ∧
        rendering.result = .error failure) ∧
      ∀ table column spec, session.engine = .postgres →
        operation = .changeColumn table column spec →
        (Engine.readColumn spec).result = .error failure := by
  obtain ⟨rendering, renders⟩ := Operation.statements?_of_buildsStatements builds session.engine
  cases result : rendering.result with
  | ok plan =>
      obtain ⟨sent, member, same⟩ := step_rendered now renders result failed
      exact absurd same (own sent member)
  | error reason =>
      obtain ⟨run, nothing⟩ := step_unrendered now renders result
      rw [run] at failed ⊢
      cases failed
      refine ⟨records_notes _ _, ?_, nothing, rfl, ⟨rendering, renders, result⟩, ?_⟩
      · intro event member
        obtain ⟨n, -, noted⟩ := List.mem_flatMap.1 member
        exact session.logging.note_isTraffic n event noted
      · rintro table column spec postgres rfl
        rw [postgres] at renders
        cases renders
        have reading : (Engine.changeColumn .postgres table column spec).result =
            (Engine.readColumn spec).result.bind fun read =>
              .ok (Engine.changePlan .postgres table column read) := by
          rw [Engine.changeColumn, Noted.result_bind]
          rfl
        rw [reading] at result
        cases read : (Engine.readColumn spec).result with
        | ok found =>
            rw [read] at result
            cases result
        | error reason =>
            rw [read] at result
            cases result
            rfl

/-- A column is changed by a description that does not give its type. -/
theorem argument_errors_are_atomic_untyped :
    let change := Operation.changeColumn (.text "t") (.text "c") (.map [])
    let now : Timestamp := ⟨2024, 1, 2, 3, 4, 5, 6⟩
    let outcome := (step now (.operation change)).run Connect.plainSession
    change.buildsStatements = true ∧
      outcome.result = .error (Engine.invalidColumn (.map []) .untypedColumn) ∧
      (∀ sent ∈ stepDispatched now (.operation change) Connect.plainSession,
        sent.answer ≠ .error (Engine.invalidColumn (.map []) .untypedColumn)) ∧
      records outcome.events = [] ∧ outcome.state = Connect.plainSession := by
  intro change now outcome
  have failed : outcome.result = .error (Engine.invalidColumn (.map []) .untypedColumn) := rfl
  have own : ∀ sent ∈ stepDispatched now (.operation change) Connect.plainSession,
      sent.answer ≠ .error (Engine.invalidColumn (.map []) .untypedColumn) := by
    intro sent member
    cases member
  obtain ⟨unlogged, -, -, same, -⟩ := argument_errors_are_atomic rfl now failed own
  exact ⟨rfl, failed, own, unlogged, same⟩

end Session

end SchemaChange
