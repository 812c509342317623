/-
# SchemaChange.Client.Link — the connection of a session

A session owns one connection: the caller's own, which answers queries itself, an
adapter of a client library's connection, or any other value, which cannot answer
queries and can be closed only if it is the connection of a client library.
-/
import SchemaChange.Client.Adapter

set_option autoImplicit false

namespace SchemaChange

/-- What the caller's own connection does with a query. -/
inductive PlainReply where
  | answer (value : Value)
  /-- reports that the statement was refused -/
  | refusal (message : String) (engineName : Value)
  /-- fails with an error of its own -/
  | breakdown (message : String)

/-- A connection that a session owns. -/
inductive Link where
  | plain (replies : List PlainReply)
  | adapter (adapter : Adapter)
  | bare (value : Value)

namespace Link

/-- The answer of a connection that is given none beforehand. -/
def emptyResult : Value := .result (.list []) (-1)

/-- The report of a statement that the caller's own connection refused. -/
def refusalReport (sql message : String) (engineName : Value) : Report :=
  ⟨message, .execution (.text sql) engineName .null, [(.text "engine_name", engineName)]⟩

/-- What a reply of the caller's own connection to a statement amounts to. -/
def PlainReply.outcome (sql : String) : PlainReply → Attempt Value
  | .answer value => .ok value
  | .refusal message engineName => .report (refusalReport sql message engineName)
  | .breakdown message => .error (.client message)

/-- The next reply of the caller's own connection, and those after it. -/
def takeReply (sql : String) : List PlainReply → Attempt Value × List PlainReply
  | [] => (.ok emptyResult, [])
  | reply :: rest => (PlainReply.outcome sql reply, rest)

/-- Answers a query. -/
def query (sql : String) (params : Option (List Value)) : Act Failure Link Event Value :=
  ⟨fun link =>
    match link with
    | .plain replies =>
      let taken := takeReply sql replies
      ⟨taken.1, [.query sql params], .plain taken.2⟩
    | .adapter own =>
      let outcome := (Adapter.query sql params).run own
      ⟨outcome.result, outcome.events, .adapter outcome.state⟩
    | .bare value => ⟨.error (.misuse .missingOperation), [], .bare value⟩⟩

/-- Closes the connection. -/
def close (closing : Closing) : Act Failure Link Event Unit :=
  ⟨fun link =>
    match link with
    | .plain replies => ⟨Closing.outcome closing.connectionError, [.close], .plain replies⟩
    | .adapter own =>
      let outcome := (Adapter.close closing).run own
      ⟨outcome.result, outcome.events, .adapter outcome.state⟩
    | .bare (.connection handle) =>
      ⟨Closing.outcome closing.connectionError, [.close], .bare (.connection handle)⟩
    | .bare value => ⟨.error (.misuse .missingOperation), [], .bare value⟩⟩

/-- The connection after its newest cursor has come to its end. -/
def expireCursor : Link → Link
  | .adapter own => .adapter own.expire
  | link => link

theorem run_close_adapter (closing : Closing) (own : Adapter) :
    (close closing).run (.adapter own) =
      ⟨((Adapter.close closing).run own).result, ((Adapter.close closing).run own).events,
        .adapter ((Adapter.close closing).run own).state⟩ := rfl

end Link

end SchemaChange
