/-
# SchemaChange.ReportKeywords — reports made from keywords

A report of any family can be made from a message and keywords.  What the family
says about its trouble is taken from the keywords, and the others become context.  A
connection or a refused statement keeps the engine and its state in the context too.
Only reports of no particular family have an identifier and an exit value of their
own.
-/
import SchemaChange.Failure

set_option autoImplicit false

namespace SchemaChange.Report

/-- The keywords that no report accepts. -/
def reservedKeywords : Family → List String
  | .general => ["self", "message"]
  | _ => ["self", "message", "ident", "exitval"]

/-- The keywords that describe a trouble of a family and do not become context. -/
def ownKeywords : Family → List String
  | .general => ["ident", "exitval"]
  | .configuration => ["config_key"]
  | .validation => ["field_name", "field_value"]
  | .engine => ["engine_name", "sql_state"]
  | .connection => ["connection_string"]
  | .execution => ["sql"]

/-- The trouble that keywords describe. -/
def troubleOf (family : Family) (keywords : Entries) : Trouble :=
  let value (name : String) : Value := keywords.getD name .null
  match family with
  | .general =>
    .general (keywords.getD "ident" (.text "dbmigrate")) (keywords.getD "exitval" (.int 2))
  | .configuration => .configuration (value "config_key")
  | .validation => .validation (value "field_name") (value "field_value")
  | .engine => .engine (value "engine_name") (value "sql_state")
  | .connection => .connection (value "connection_string") (value "engine_name")
  | .execution => .execution (value "sql") (value "engine_name") (value "sql_state")

/-- Entries without some text keys. -/
def without (names : List String) (entries : Entries) : Entries :=
  names.foldl (fun left name => left.erase name) entries

/-- The report of a family with a message and keywords. -/
def ofKeywords (family : Family) (message : String) (keywords : Entries) : Attempt Report :=
  if (reservedKeywords family).any keywords.contains then .misuse .wrongKind
  else .ok ⟨message, troubleOf family keywords, without (ownKeywords family) keywords⟩

end SchemaChange.Report
