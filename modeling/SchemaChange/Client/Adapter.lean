/-
# SchemaChange.Client.Adapter — adapters of the client libraries' connections

An adapter answers queries over the connection of an engine's own client library.
It keeps one cursor; PostgreSQL replaces a cursor that has expired.  Parameters go
to the cursor with the statement, except that PostgreSQL prepares the statement
under a fresh name, executes it by that name, and releases it.

A refusal of the client library is reported with the statement that was asked for
(`executionReport`).  The answers of the client library are given beforehand, one for
every execution, and so is what it does when the cursor and the connection are closed
(`Closing`).

Two things are taken for granted.  A client library that has given a connection makes
cursors on it without fault: it has its say when a statement is executed.  And prepared
statements are numbered from one, as for the first connection of a process; later
connections of a process go on with the numbers, which makes no difference to what an
adapter does with them.
-/
import SchemaChange.Act
import SchemaChange.Event
import SchemaChange.Value.Access

set_option autoImplicit false

namespace SchemaChange

/-- An error of a client library: its text and the code it carries. -/
structure ClientError where
  text : String
  code : Value

/-- What a cursor has after an execution: rows, whether it describes any, and a row count. -/
structure CursorAnswer where
  rows : Value
  described : Bool
  rowcount : Int

/-- What a client library answers to an execution. -/
inductive CursorReply where
  | answer (answer : CursorAnswer)
  | refusal (error : ClientError)
  /-- executes the statement, but refuses to give its rows -/
  | withheld (error : ClientError)

/-- The errors with which a connection meets its end: that of its cursor when it is closed, and
its own. -/
structure Closing where
  cursorError : Option String := none
  connectionError : Option String := none

/-- What closing amounts to: an error of the connection's own, if it has one. -/
def Closing.outcome (error : Option String) : Attempt Unit :=
  match error with
  | none => .ok ()
  | some message => .error (.client message)

/-- Whether a cursor can still be used. -/
inductive CursorState where
  | usable
  | expired
  deriving DecidableEq, Repr

/-- An adapter: its engine, the answers to come, its cursor, and the number of the next prepared
statement. -/
structure Adapter where
  engine : Engine
  replies : List CursorReply
  cursor : Option CursorState
  nextStatement : Nat

/-- Why an adapter cannot answer: the client library refused, or the answer has no rows. -/
inductive AdapterError where
  | client (error : ClientError)
  | failure (failure : Failure)

namespace Adapter

/-- An action of an adapter. -/
abbrev Doing (α : Type) := Act AdapterError Adapter Event α

/-- An adapter of a fresh connection; its prepared statements are numbered from one. -/
def fresh (engine : Engine) (replies : List CursorReply) : Adapter :=
  ⟨engine, replies, none, 1⟩

/-- Whether a cursor must be made before the next execution. -/
def needsCursor (adapter : Adapter) : Bool :=
  match adapter.cursor with
  | none => true
  | some .usable => false
  | some .expired => adapter.engine == .postgres

/-- Makes a cursor if one is needed.  That the client library can make one is assumed. -/
def ensureCursor : Doing Unit := do
  let adapter ← Act.get
  if adapter.needsCursor then
    Act.emit [.cursor adapter.engine]
    Act.modify fun a => { a with cursor := some .usable }

/-- What a client library answers when nothing is given for an execution. -/
def silence : CursorAnswer := ⟨.null, false, -1⟩

/-- Executes a statement and takes the next answer: what is at the cursor, or the error with which
its rows are withheld. -/
def execute (sql : String) (params : Option (List Value)) :
    Doing (Except ClientError CursorAnswer) := do
  Act.emit [.execute sql params]
  let adapter ← Act.get
  match adapter.replies with
  | [] => pure (.ok silence)
  | reply :: rest =>
    Act.modify fun a => { a with replies := rest }
    match reply with
    | .answer answer => pure (.ok answer)
    | .withheld error => pure (.error error)
    | .refusal error => Act.fail (.client error)

/-- The rows that a cursor gives, each as a map where the client library does not make maps
itself. -/
def readRows (engine : Engine) (rows : Value) : Attempt Value := do
  match engine with
  | .mysql => if rows.truthy then .ok (.list (← rows.items)) else .ok (.list [])
  | _ => .ok (.list ((← (← rows.items).mapM Value.readEntries).map .map))

/-- The result of an execution. -/
def readResult : Except ClientError CursorAnswer → Doing Value
  | .error error => do
    Act.emit [.fetchAll]
    Act.fail (.client error)
  | .ok answer => do
    if answer.described then
      Act.emit [.fetchAll]
      let adapter ← Act.get
      match readRows adapter.engine answer.rows with
      | .ok rows => pure (.result rows answer.rowcount)
      | .error failure => Act.fail (.failure failure)
    else pure (.result (.list []) answer.rowcount)

/-- The name of a prepared statement. -/
def statementName (number : Nat) : String :=
  "dbmigrate_stmt_" ++ toString number

/-- The marks for a number of values in the execution of a prepared statement. -/
def valueMarks (count : Nat) : String :=
  commaSeparated (List.replicate count "%s")

/-- The command that prepares a statement. -/
def prepareCommand (name sql : String) : String :=
  "PREPARE " ++ name ++ " AS " ++ sql

/-- The command that executes a prepared statement with a number of values. -/
def executeCommand (name : String) (count : Nat) : String :=
  "EXECUTE " ++ name ++ " (" ++ valueMarks count ++ ")"

/-- The command that releases a prepared statement. -/
def releaseCommand (name : String) : String :=
  "DEALLOCATE " ++ name

/-- Takes the number of the next prepared statement. -/
def takeNumber : Doing Nat := do
  let adapter ← Act.get
  Act.modify fun a => { a with nextStatement := a.nextStatement + 1 }
  pure adapter.nextStatement

/-- Executes a statement with values by preparing and releasing it. -/
def executePrepared (sql : String) (values : List Value) : Doing Value := do
  let number ← takeNumber
  let name := statementName number
  let _ ← execute (prepareCommand name sql) none
  let answer ← execute (executeCommand name values.length) (some values)
  let result ← readResult answer
  let _ ← execute (releaseCommand name) none
  pure result

/-- Executes a statement in the way of an engine, no values being like an empty list of them. -/
def executeFor (engine : Engine) (sql : String) : Option (List Value) → Doing Value
  | none | some [] => do readResult (← execute sql none)
  | some (value :: values) =>
    match engine with
    | .postgres => executePrepared sql (value :: values)
    | _ => do readResult (← execute sql (some (value :: values)))

/-- Answers a query, the errors of the client library apart. -/
def answer (sql : String) (params : Option (List Value)) : Doing Value := do
  ensureCursor
  let adapter ← Act.get
  executeFor adapter.engine sql params

/-- The report of a refusal by the client library. -/
def executionReport (engine : Engine) (sql : String) (error : ClientError) : Report :=
  let state := match engine with
    | .sqlite => .null
    | _ => error.code
  let stateContext := match engine with
    | .sqlite => []
    | _ => [(Value.text "sql_state", error.code)]
  ⟨"SQL execution failed: " ++ error.text, .execution (.text sql) (.text engine.name) state,
    (.text "engine_name", .text engine.name) :: stateContext
      ++ [(.text Report.causeKey, .fault error.text)]⟩

/-- The failure of a query. -/
def queryFailure (engine : Engine) (sql : String) : AdapterError → Failure
  | .client error => .report (executionReport engine sql error)
  | .failure failure => failure

/-- Answers a query. -/
def query (sql : String) (params : Option (List Value)) : Act Failure Adapter Event Value :=
  ⟨fun adapter => ((answer sql params).mapError (queryFailure adapter.engine sql)).run adapter⟩

/-- Closes the cursor, if there is one, and the connection, as far as they let themselves be
closed. -/
def close (closing : Closing) : Act Failure Adapter Event Unit := do
  let adapter ← Act.get
  if adapter.cursor.isSome then
    Act.emit [.cursorClose]
    Closing.outcome closing.cursorError
    Act.modify fun a => { a with cursor := none }
  Act.emit [.close]
  Closing.outcome closing.connectionError

/-- An adapter whose newest cursor has come to its end. -/
def expire (adapter : Adapter) : Adapter :=
  { adapter with cursor := adapter.cursor.map fun _ => .expired }

theorem run_close_without_cursor {adapter : Adapter} (none : adapter.cursor = none)
    (closing : Closing) :
    (close closing).run adapter
      = ⟨Closing.outcome closing.connectionError, [.close], adapter⟩ := by
  simp [close, none, Act.run_emit_bind]

/-- A cursor that cannot be closed is kept, and the connection behind it is not closed. -/
theorem run_close_with_cursor {adapter : Adapter} {state : CursorState}
    (some : adapter.cursor = some state) (closing : Closing) :
    (close closing).run adapter =
      match closing.cursorError with
      | .none =>
        ⟨Closing.outcome closing.connectionError, [.cursorClose, .close],
          { adapter with cursor := .none }⟩
      | .some message => ⟨.error (.client message), [.cursorClose], adapter⟩ := by
  simp only [close, Act.run_get_bind, some, Option.isSome_some, if_true, Act.run_emit_bind]
  cases h : closing.cursorError with
  | none =>
    rw [Act.run_lift_bind_ok (by rfl), Act.run_bind_ok (by rfl)]
    simp [Act.run_emit_bind]
  | some message =>
    rw [Act.run_lift_bind_error (by rfl)]
    rfl

end Adapter

end SchemaChange
