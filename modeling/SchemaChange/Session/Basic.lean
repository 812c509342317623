/-
# SchemaChange.Session.Basic — a gateway, its connection and its log

A session owns one connection and is the only way to it.  A statement is prepared,
logged, and then submitted, unless this is a dry run or the connection has been
closed.  `Session.submit` answers the native result and `Session.fetch` its rows;
under a dry run they answer null and no rows.  Closing takes effect once.

`Session.perform` carries out a script, `Session.step` a step of a migration.
-/
import SchemaChange.Client.Link
import SchemaChange.Operation.Script
import SchemaChange.Statement.Template

set_option autoImplicit false

namespace SchemaChange

open SchemaChange.Statement (Row)

/-- What is recorded: statements and parameters by the threshold of their log, and notes. -/
structure Logging where
  threshold : Nat
  notes : Bool

namespace Logging

/-- The weight of a statement in its log. -/
def statementWeight : Nat := 10

/-- The weight of parameters in the log of statements. -/
def parametersWeight : Nat := 5

/-- The record of a statement. -/
def statement (logging : Logging) (sql : String) : List Event :=
  if logging.threshold ≤ statementWeight then [.statement sql] else []

/-- The record of the parameters of a statement. -/
def parameters (logging : Logging) (values : List Value) : List Event :=
  if logging.threshold ≤ parametersWeight then [.parameters values] else []

/-- The record of a note. -/
def note (logging : Logging) (note : Note) : List Event :=
  if logging.notes then [.note note] else []

end Logging

/-- A driver's session over one connection. -/
structure Session where
  engine : Engine
  /-- whether statements are only logged, by its truth -/
  dryRun : Value
  logging : Logging
  closed : Bool
  link : Link
  /-- how the connection meets its end -/
  closing : Closing

namespace Session

/-- An action of a session. -/
abbrev Doing (α : Type) := Act Failure Session Event α

/-- Records a note. -/
def note (n : Note) : Doing Unit := do
  let session ← Act.get
  Act.emit (session.logging.note n)

/-- The report of a statement that comes after the end of the connection. -/
def closedReport (engine : Engine) : Report :=
  ⟨engine.name ++ " connection is closed", .connection .null (.text engine.name),
    [(.text "engine_name", .text engine.name)]⟩

/-- The values of the parameters of a statement; none if they count as false. -/
def parameterValues (params : Value) : Attempt (Option (List Value)) :=
  if params.truthy then params.items.map some else .ok none

/-- Prepares a statement and logs it with its parameters. -/
def announce (template params : Value) : Doing (String × Option (List Value)) := do
  let session ← Act.get
  let sql ← Statement.prepare session.engine.dialect template params
  Act.emit (session.logging.statement sql)
  let values ← parameterValues params
  match values with
  | some values => Act.emit (session.logging.parameters values)
  | none => pure ()
  pure (sql, values)

/-- Hands a statement to the connection unless it has been closed. -/
def dispatch (sql : String) (params : Option (List Value)) : Doing Value := do
  let session ← Act.get
  if session.closed then Act.fail (.report (closedReport session.engine))
  else Act.onPart link (fun s l => { s with link := l }) (Link.query sql params)

/-- Submits a statement and answers its native result. -/
def submit (template params : Value) : Doing Value := do
  let (sql, values) ← announce template params
  let session ← Act.get
  if session.dryRun.truthy then pure .null
  else dispatch sql values

/-- Submits a query and answers its rows. -/
def fetch (template params : Value) : Doing (List Row) := do
  let (sql, values) ← announce template params
  let session ← Act.get
  if session.dryRun.truthy then pure []
  else do
    let answer ← dispatch sql values
    Statement.normalizeRows answer

/-- The note about a connection that is closed again. -/
def closedAgain (engine : Engine) : Note :=
  ⟨.warning, engine.name ++ " connection already closed"⟩

/-- Closes the connection the first time, and leaves a note after that. -/
def close : Doing Unit := do
  let session ← Act.get
  if session.closed then note (closedAgain session.engine)
  else do
    Act.modify fun s => { s with closed := true }
    Act.onPart link (fun s l => { s with link := l }) (Link.close session.closing)

/-- Carries out a script. -/
def perform {α : Type} : Script α → Doing α
  | .done outcome => Act.done outcome
  | .note n next => do
    note n
    perform next
  | .submit template params next => do
    let value ← submit template params
    perform (next value)
  | .fetch template params next => do
    let rows ← fetch template params
    perform (next rows)
  | .askDryRun next => do
    let session ← Act.get
    perform (next session.dryRun.truthy)

/-- Carries out a step at a time. -/
def step (now : Timestamp) : Step → Doing Value
  | .operation operation => do
    let session ← Act.get
    perform (operation.script session.engine now)
  | .close => do
    close
    pure .null
  | .expireCursor => do
    Act.modify fun s => { s with link := s.link.expireCursor }
    pure .null

/-- Carries out a step that is named by a word and arguments. -/
def call (now : Timestamp) (word : String) (arguments : List Value) : Doing Value := do
  let named ← Step.ofCall word arguments
  step now named

/-- Carries out steps one after the other, each at its own time, whether they fail or not. -/
def runAll : List (Timestamp × Step) → Session →
    List (Outcome Failure Session Event Value) × Session
  | [], session => ([], session)
  | (now, s) :: rest, session =>
    let outcome := (step now s).run session
    let others := runAll rest outcome.state
    (outcome :: others.1, others.2)

theorem run_close_of_closed {session : Session} (h : session.closed = true) :
    close.run session
      = ⟨.ok (), session.logging.note (closedAgain session.engine), session⟩ := by
  rw [close, Act.run_get_bind, if_pos h]
  rfl

theorem run_close_of_open {session : Session} (h : session.closed = false) :
    close.run session =
      ⟨((Link.close session.closing).run session.link).result,
        ((Link.close session.closing).run session.link).events,
        { session with
          closed := true
          link := ((Link.close session.closing).run session.link).state }⟩ := by
  simp only [close, Act.run_get_bind, h, Bool.false_eq_true, if_false]
  rfl

end Session

end SchemaChange
