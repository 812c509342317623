/-
# SchemaChange.Proofs.Session.ColumnChange — how far the change of a column gets

PostgreSQL changes a column by a plan of two or three statements, which are submitted one after
the other.  Each of them is answered or fails, and the first one that fails is the last one that is
submitted.  So the whole plan is submitted also where only its last statement fails.  The last
statement may hold the default of the column, so this is stated of descriptions that can be written.

* `Engine.changePlan_postgres` — the plan is made of the actions that a description asks for.
* `Session.run_plan_plain` — what is submitted of a plan, and what comes of it, depends on the
  replies of the connection (`Link.outcomes`) up to the first failure only.
* `Session.column_change_stops_at_failure` — so a column is changed by a prefix of its plan.
* `Session.column_change_fails_at_the_end` — a failure that leaves nothing of the plan undone.
-/
import SchemaChange.Proofs.Column.Written
import SchemaChange.Proofs.Session.Delivery
import SchemaChange.Proofs.Session.Dispatched

set_option autoImplicit false

namespace SchemaChange

/-! ## The plan -/

/-- What is done to a column of a table that exists. -/
inductive ColumnAction where
  | setNotNull
  | dropNotNull
  | addUnique
  | dropUnique
  | setDefault (value : Value)
  | dropDefault

namespace ColumnAction

/-- The actions on the uniqueness of a column, which is left alone unless it is to be exactly true
or false. -/
def uniqueness : Value → List ColumnAction
  | .bool true => [.addUnique]
  | .bool false => [.dropUnique]
  | _ => []

/-- The actions that the description of a column asks for, in order. -/
def planned (spec : ColumnSpec) : List ColumnAction :=
  [if spec.notNull.truthy then .setNotNull else .dropNotNull]
    ++ uniqueness spec.unique
    ++ [if spec.defaultValue.isNull then .dropDefault else .setDefault spec.defaultValue]

/-- A name between the quotes of PostgreSQL. -/
def quotedName (name : String) : String :=
  "\"" ++ name ++ "\""

/-- The name of the constraint that keeps a column unique. -/
def uniqueName (table column : String) : String :=
  table ++ "_" ++ column ++ "_unique"

/-- The statement of an action on a column. -/
def statement (table column : String) : ColumnAction → String
  | .setNotNull =>
    "ALTER TABLE " ++ quotedName table ++ " ALTER COLUMN " ++ quotedName column ++ " SET NOT NULL"
  | .dropNotNull =>
    "ALTER TABLE " ++ quotedName table ++ " ALTER COLUMN " ++ quotedName column ++ " DROP NOT NULL"
  | .addUnique =>
    "ALTER TABLE " ++ quotedName table ++ " ADD CONSTRAINT " ++ uniqueName table column
      ++ " UNIQUE (" ++ quotedName column ++ ")"
  | .dropUnique =>
    "ALTER TABLE " ++ quotedName table ++ " DROP CONSTRAINT " ++ uniqueName table column
  | .setDefault value =>
    "ALTER TABLE " ++ quotedName table ++ " ALTER COLUMN " ++ quotedName column ++ " SET DEFAULT "
      ++ value.sqlDefault
  | .dropDefault =>
    "ALTER TABLE " ++ quotedName table ++ " ALTER COLUMN " ++ quotedName column ++ " DROP DEFAULT"

/-- The statements that a description of a column asks for, in order. -/
def plan (table column : String) (spec : ColumnSpec) : List String :=
  (planned spec).map (statement table column)

end ColumnAction

/-- PostgreSQL's plan is made of the actions that a description asks for. -/
theorem Engine.changePlan_postgres (table column : String) (spec : ColumnSpec) :
    Engine.changePlan .postgres (.text table) (.text column) spec
      = ColumnAction.plan table column spec := by
  have unique (value : Value) : Engine.uniquenessChange .postgres (.text table) (.text column) value
      = (ColumnAction.uniqueness value).map (ColumnAction.statement table column) := by
    cases value with
    | bool b => cases b <;> rfl
    | _ => rfl
  unfold Engine.changePlan ColumnAction.plan ColumnAction.planned
  rw [unique, List.map_append, List.map_append]
  cases spec.notNull.truthy <;> cases spec.defaultValue.isNull <;> rfl

/-! ## Replies -/

/-- What becomes of statements that are submitted one after the other, by the replies that the
caller's own connection is given beforehand. -/
def Link.outcomes : List String → List PlainReply → List (Attempt Value)
  | [], _ => []
  | sql :: rest, replies => (takeReply sql replies).1 :: outcomes rest (takeReply sql replies).2

theorem Link.length_outcomes (sent : List String) (replies : List PlainReply) :
    (Link.outcomes sent replies).length = sent.length := by
  induction sent generalizing replies with
  | nil => rfl
  | cons sql rest ih => simp [Link.outcomes, ih]

namespace Attempt

/-- The number of attempts up to the first that fails, or to the last. -/
def made : List (Attempt Value) → Nat
  | [] => 0
  | .ok _ :: rest => made rest + 1
  | .error _ :: _ => 1

/-- What comes of attempts that are made up to the first that fails, or to the last; of none at all
comes what came before. -/
def settled (before : Attempt Value) : List (Attempt Value) → Attempt Value
  | [] => before
  | .ok value :: rest => settled (.ok value) rest
  | .error failure :: _ => .error failure

theorem made_le_length (attempts : List (Attempt Value)) : made attempts ≤ attempts.length := by
  induction attempts with
  | nil => exact Nat.le_refl 0
  | cons attempt rest ih =>
      cases attempt with
      | ok value => simpa [made] using ih
      | error failure => simp [made]

theorem made_pos {attempts : List (Attempt Value)} (ne : attempts ≠ []) : 0 < made attempts := by
  cases attempts with
  | nil => exact absurd rfl ne
  | cons attempt rest => cases attempt <;> simp [made]

/-- All attempts are made exactly if none but the last fails. -/
theorem made_eq_length_iff (attempts : List (Attempt Value)) :
    made attempts = attempts.length ↔ ∀ attempt ∈ attempts.dropLast, attempt.isOk = true := by
  induction attempts with
  | nil => simp [made]
  | cons attempt rest ih =>
      cases rest with
      | nil => cases attempt <;> simp [made]
      | cons next rest =>
          cases attempt with
          | ok value => simpa [made, Except.isOk, Except.toBool] using ih
          | error failure => simp [made, Except.isOk, Except.toBool]

/-- What came before the attempts does not matter if there are any. -/
theorem settled_cons (before other attempt : Attempt Value) (rest : List (Attempt Value)) :
    settled before (attempt :: rest) = settled other (attempt :: rest) := by
  cases attempt <;> rfl

theorem made_of_ok (answers : List Value) :
    made (answers.map .ok) = answers.length := by
  induction answers with
  | nil => rfl
  | cons value answers ih => exact congrArg (· + 1) ih

theorem settled_of_ok (before : Attempt Value) (answers : List Value) (answer : Value) :
    settled before ((answers ++ [answer]).map .ok) = .ok answer := by
  induction answers generalizing before with
  | nil => rfl
  | cons value answers ih => exact ih (.ok value)

theorem made_of_error (answers : List Value) (failure : Failure) (later : List (Attempt Value)) :
    made (answers.map .ok ++ .error failure :: later) = answers.length + 1 := by
  induction answers with
  | nil => rfl
  | cons value answers ih => exact congrArg (· + 1) ih

theorem settled_of_error (before : Attempt Value) (answers : List Value) (failure : Failure)
    (later : List (Attempt Value)) :
    settled before (answers.map .ok ++ .error failure :: later) = .error failure := by
  induction answers generalizing before with
  | nil => rfl
  | cons value answers ih => exact ih (.ok value)

end Attempt

namespace Session

variable {session : Session} {replies : List PlainReply}

/-! ## A plan over the caller's own connection -/

/-- A statement that reaches the caller's own connection uses up one of its replies. -/
theorem run_submit_plain (ready : session.Ready) (plain : session.link = .plain replies)
    (text : String) :
    (submit (.text text) .null).run session =
      ⟨(Link.takeReply (session.engine.withoutBrackets text) replies).1,
        session.logging.record (session.engine.withoutBrackets text) none
          ++ [.query (session.engine.withoutBrackets text) none],
        { session with
          link := .plain (Link.takeReply (session.engine.withoutBrackets text) replies).2 }⟩ := by
  rw [run_submit_announced (session.engine.prepare_text text) rfl, ready.handle, plain]
  rfl

theorem traffic_submit_plain (ready : session.Ready) (plain : session.link = .plain replies)
    (text : String) :
    ((submit (.text text) .null).run session).events.filter Event.isTraffic
      = [.query (session.engine.withoutBrackets text) none] := by
  rw [run_submit_plain ready plain, List.filter_append,
    traffic_eq_nil (session.logging.record_isTraffic _ none)]
  rfl

/-- The queries of statements without parameters. -/
def queries (sent : List String) : List Event :=
  sent.map fun sql => .query sql none

/-- A plan goes on after a statement that is answered; the answer to the last one is its result. -/
theorem perform_runAll_cons (text : String) (rest : List String) :
    perform (Script.runAll (text :: rest)) =
      submit (.text text) .null >>= fun value =>
        match rest with
        | [] => pure value
        | next :: rest => perform (Script.runAll (next :: rest)) := by
  cases rest <;> rfl

/-- **A plan gets to the first statement that fails, or to its end**: the statements up to there
reach the connection, each prepared, and what comes of the last of them comes of the plan. -/
theorem run_plan_plain (ready : session.Ready) (plain : session.link = .plain replies)
    (plan : List String) :
    let sent := plan.map session.engine.withoutBrackets
    let replied := Link.outcomes sent replies
    let outcome := (perform (Script.runAll plan)).run session
    outcome.result = Attempt.settled (.ok .null) replied ∧
      outcome.events.filter Event.isTraffic = queries (sent.take (Attempt.made replied)) := by
  induction plan generalizing session replies with
  | nil => exact ⟨rfl, rfl⟩
  | cons text rest ih =>
      have first := run_submit_plain ready plain text
      have traffic := traffic_submit_plain ready plain text
      rw [first] at traffic
      rw [perform_runAll_cons]
      simp only [List.map_cons, Link.outcomes]
      cases reply : (Link.takeReply (session.engine.withoutBrackets text) replies).1 with
      | error failure =>
          rw [Act.run_bind_error (by rw [first, reply]), first]
          exact ⟨rfl, traffic⟩
      | ok value =>
          rw [Act.run_bind_ok (by rw [first, reply]), first]
          simp only [List.filter_append, traffic]
          cases rest with
          | nil => exact ⟨rfl, rfl⟩
          | cons next rest =>
              obtain ⟨settled, others⟩ :=
                @ih { session with link := .plain _ } _ ⟨ready.live, ready.opened, trivial⟩ rfl
              exact ⟨settled.trans (Attempt.settled_cons _ _ _ _), congrArg (_ :: ·) others⟩

/-! ## The change of a column -/

variable {description : Value} {spec : ColumnSpec}

/-- The step that changes a column runs the plan that its description asks for. -/
theorem changeColumn_runs_plan (postgres : session.engine = .postgres)
    (read : (Engine.readColumn description).result = .ok spec) (now : Timestamp)
    (table column : String) :
    let outcome :=
      (step now (.operation (.changeColumn (.text table) (.text column) description))).run session
    let planned := (perform (Script.runAll (ColumnAction.plan table column spec))).run session
    outcome.result = planned.result ∧
      outcome.events.filter Event.isTraffic = planned.events.filter Event.isTraffic := by
  obtain ⟨rendering, renders, rendered⟩ : ∃ rendering,
      (Operation.changeColumn (.text table) (.text column) description).statements? session.engine
        = some rendering ∧ rendering.result = .ok (ColumnAction.plan table column spec) := by
    refine ⟨Engine.changeColumn .postgres (.text table) (.text column) description, ?_, ?_⟩
    · rw [postgres]
      rfl
    · rw [← Engine.changePlan_postgres, Engine.changeColumn, Noted.result_bind, read]
      rfl
  have run := run_perform_notes rendering.notes
    (Script.runAll (ColumnAction.plan table column spec)) session
  rw [← Script.ofStatements_of_ok rendered, ← Operation.script_eq_statements renders now,
    ← run_step_operation] at run
  rw [run]
  refine ⟨rfl, ?_⟩
  rw [List.filter_append, traffic_eq_nil, List.nil_append]
  intro event member
  obtain ⟨n, -, noted⟩ := List.mem_flatMap.1 member
  exact session.logging.note_isTraffic n event noted

/-- **PostgreSQL changes a column by a prefix of its plan**, each statement prepared.  The prefix is
the whole plan exactly if none of its replies fails, except perhaps the last; if none does at all,
the result is the last answer, and otherwise the prefix ends with the first statement that fails,
and the change fails in the same way.  No integer of the description is too long to be written, so
the default that the plan sets can be written. -/
theorem column_change_stops_at_failure (ready : session.Ready)
    (postgres : session.engine = .postgres) (plain : session.link = .plain replies)
    (writable : description.isWritable = true)
    (read : (Engine.readColumn description).result = .ok spec) (now : Timestamp)
    (table column : String) :
    let sent := (ColumnAction.plan table column spec).map session.engine.withoutBrackets
    let replied := Link.outcomes sent replies
    let outcome :=
      (step now (.operation (.changeColumn (.text table) (.text column) description))).run session
    spec.defaultValue.written? = some spec.defaultValue.display ∧
    ∃ count, 0 < count ∧ count ≤ sent.length ∧
      outcome.events.filter Event.isTraffic = queries (sent.take count) ∧
      (count = sent.length ↔ ∀ reply ∈ replied.dropLast, reply.isOk = true) ∧
      (∀ (answers : List Value) (answer : Value), replied = (answers ++ [answer]).map .ok →
        count = sent.length ∧ outcome.result = .ok answer) ∧
      ∀ (answers : List Value) (failure : Failure) (later : List (Attempt Value)),
        replied = answers.map .ok ++ .error failure :: later →
        count = answers.length + 1 ∧ outcome.result = .error failure := by
  intro sent replied outcome
  obtain ⟨result, traffic⟩ := run_plan_plain ready plain (ColumnAction.plan table column spec)
  obtain ⟨sameResult, sameTraffic⟩ :=
    changeColumn_runs_plan postgres read now table column
  have settled : outcome.result = Attempt.settled (.ok .null) replied := sameResult.trans result
  have long : replied.length = sent.length := Link.length_outcomes sent replies
  refine ⟨(ColumnSpec.ofValue_written writable (Engine.readColumn_eq_ok_iff.1 read)).2,
    Attempt.made replied, ?_, ?_, ?_, ?_, ?_, ?_⟩
  · apply Attempt.made_pos
    rw [← List.length_pos_iff, long]
    simp [sent, ColumnAction.plan, ColumnAction.planned]
  · rw [← long]
    exact Attempt.made_le_length replied
  · exact sameTraffic.trans traffic
  · rw [← long]
    exact Attempt.made_eq_length_iff replied
  · intro answers answer all
    rw [settled, ← long, all, Attempt.made_of_ok, Attempt.settled_of_ok, List.length_map]
    exact ⟨rfl, rfl⟩
  · intro answers failure later first
    rw [settled, first, Attempt.made_of_error, Attempt.settled_of_error]
    exact ⟨rfl, rfl⟩

/-- A session of PostgreSQL over the caller's own connection, which is given replies. -/
def replyingSession (replies : List PlainReply) : Session :=
  { Connect.plainSession with link := .plain replies }

theorem replyingSession_ready (replies : List PlainReply) : (replyingSession replies).Ready :=
  ⟨rfl, rfl, trivial⟩

/-- The description of a column that is to have a value, and to be unique. -/
def uniqueColumn : Value :=
  .map [(.text "type", .text "int"), (.text "notNull", .bool true), (.text "unique", .bool true)]

/-- Where the column is found not to be unique, its default is left as it is. -/
theorem column_change_stops_at_failure_unique :
    let outcome := (step ⟨2024, 1, 2, 3, 4, 5, 6⟩
      (.operation (.changeColumn (.text "t") (.text "c") uniqueColumn))).run
        (replyingSession [.answer .null, .breakdown "could not create unique index"])
    outcome.events.filter Event.isTraffic = queries
        ["ALTER TABLE \"t\" ALTER COLUMN \"c\" SET NOT NULL",
          "ALTER TABLE \"t\" ADD CONSTRAINT t_c_unique UNIQUE (\"c\")"] ∧
      outcome.result = .error (.client "could not create unique index") := by
  have read : (Engine.readColumn uniqueColumn).result = .ok
      { ColumnSpec.ofType (.ofValue (.text "int")) with
        notNull := .bool true
        unique := .bool true } := rfl
  obtain ⟨-, count, -, -, traffic, -, -, fails⟩ := column_change_stops_at_failure
    (replyingSession_ready [.answer .null, .breakdown "could not create unique index"]) rfl rfl rfl read
    ⟨2024, 1, 2, 3, 4, 5, 6⟩ "t" "c"
  obtain ⟨rfl, result⟩ := fails [.null] (.client "could not create unique index") _ rfl
  exact ⟨traffic.trans rfl, result⟩

/-- **The whole plan is submitted also where its last statement fails.** -/
theorem column_change_fails_at_the_end :
    let replies : List PlainReply := [.answer .null, .breakdown "boom"]
    let sent := (ColumnAction.plan "t" "c" (.ofType (.ofValue (.text "int")))).map
      (replyingSession replies).engine.withoutBrackets
    let outcome := (step ⟨2024, 1, 2, 3, 4, 5, 6⟩
      (.operation (.changeColumn (.text "t") (.text "c") (.text "int")))).run
        (replyingSession replies)
    (replyingSession replies).Ready ∧
      (Engine.readColumn (.text "int")).result = .ok (.ofType (.ofValue (.text "int"))) ∧
      ¬ (outcome.events.filter Event.isTraffic = queries sent ↔
        ∀ reply ∈ Link.outcomes sent replies, reply.isOk = true) := by
  refine ⟨replyingSession_ready _, rfl, ?_⟩
  intro same
  exact absurd (same.1 rfl (.error (.client "boom")) (.tail _ (.head _))) (by decide)

end Session

end SchemaChange
