/-
# SchemaChange.Report — reports of what went wrong

A report is an error that the library itself raises.  It belongs to a family, has
a message and what the family says about the trouble, and keeps further context,
among it the error of a client library that caused it.  Families form a hierarchy:
`Family.lineage` lists a family and the wider ones it belongs to.
-/
import SchemaChange.Value.Display

set_option autoImplicit false

namespace SchemaChange

/-- The families of reports. -/
inductive Family where
  | general
  | configuration
  | validation
  | engine
  | connection
  | execution
  deriving DecidableEq, Repr

/-- A family and the wider families that it belongs to. -/
def Family.lineage : Family → List Family
  | .general => [.general]
  | .configuration => [.configuration, .general]
  | .validation => [.validation, .general]
  | .engine => [.engine, .general]
  | .connection => [.connection, .engine, .general]
  | .execution => [.execution, .engine, .general]

/-- What a report says about its trouble, by family. -/
inductive Trouble where
  /-- a trouble of no particular family, with its own identifier and exit value -/
  | general (ident exitValue : Value)
  /-- a configuration that cannot be used, and the key at fault -/
  | configuration (key : Value)
  /-- an argument that cannot be used -/
  | validation (fieldName fieldValue : Value)
  /-- something an engine cannot do, with the state it reported -/
  | engine (engineName state : Value)
  /-- a connection that cannot be made or used any more -/
  | connection (target engineName : Value)
  /-- a statement that a database refused -/
  | execution (sql engineName state : Value)

namespace Trouble

/-- The family of a trouble. -/
def family : Trouble → Family
  | .general .. => .general
  | .configuration .. => .configuration
  | .validation .. => .validation
  | .engine .. => .engine
  | .connection .. => .connection
  | .execution .. => .execution

/-- The identifier of a trouble. -/
def ident : Trouble → Value
  | .general ident _ => ident
  | .configuration .. => .text "config"
  | .validation .. => .text "validation"
  | .engine .. => .text "engine"
  | .connection .. => .text "connection"
  | .execution .. => .text "execute"

/-- The exit value for a command that a trouble ends. -/
def exitValue : Trouble → Value
  | .general _ exitValue => exitValue
  | _ => .int 2

end Trouble

/-- A report: its message, its trouble, and further context in order. -/
structure Report where
  message : String
  trouble : Trouble
  context : Entries

namespace Report

/-- The name under which the context keeps the error that caused a report. -/
def causeKey : String := "previous_exception"

/-- The text of the error that caused a report; empty when there is none. -/
def details (report : Report) : String :=
  match report.context.get? causeKey with
  | some cause => if cause.truthy then cause.display else ""
  | none => ""

/-- The message, followed by the details on a line of their own if there are any. -/
def fullText (report : Report) : String :=
  if report.details = "" then report.message else report.message ++ "\n" ++ report.details

/-- A report about a configuration. -/
def configuration (message : String) (key : Value) : Report :=
  ⟨message, .configuration key, []⟩

/-- A report about an argument. -/
def validation (message : String) (fieldName fieldValue : Value) : Report :=
  ⟨message, .validation fieldName fieldValue, []⟩

/-- A report about what an engine cannot do. -/
def engine (message engineName : String) : Report :=
  ⟨message, .engine (.text engineName) .null, []⟩

end Report

end SchemaChange
