/-
# SchemaChange.Event — what a session can be seen to do

Everything that a session does outside itself is an event: the records of its log,
and the traffic with the connection and its client library.  `Event.isTraffic` tells
the two apart.
-/
import SchemaChange.Noted

set_option autoImplicit false

namespace SchemaChange

/-- What a session does outside itself. -/
inductive Event where
  /-- a statement in the statement log -/
  | statement (sql : String)
  /-- the parameters of a statement in the statement log -/
  | parameters (values : List Value)
  /-- a note in another log -/
  | note (note : Note)
  /-- a query of the caller's connection -/
  | query (sql : String) (params : Option (List Value))
  /-- a connection is closed -/
  | close
  /-- a client library is asked for a connection, with arguments by name -/
  | connect (engine : Engine) (arguments : Entries)
  /-- a connection is set up for use -/
  | configure (engine : Engine)
  /-- a cursor is made -/
  | cursor (engine : Engine)
  /-- a cursor executes a statement -/
  | execute (sql : String) (params : Option (List Value))
  /-- a cursor gives the rows of its statement -/
  | fetchAll
  /-- a cursor is closed -/
  | cursorClose

namespace Event

/-- Whether an event reaches a connection or a client library. -/
def isTraffic : Event → Bool
  | .statement _ | .parameters _ | .note _ => false
  | _ => true

/-- Whether an event hands a statement to a connection or reads from it. -/
def isStatementTraffic : Event → Bool
  | .query .. | .cursor _ | .execute .. | .fetchAll => true
  | _ => false

theorem isTraffic_of_isStatementTraffic {event : Event} (h : event.isStatementTraffic = true) :
    event.isTraffic = true := by
  cases event <;> simp_all [isStatementTraffic, isTraffic]

end Event

end SchemaChange
