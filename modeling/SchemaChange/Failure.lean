/-
# SchemaChange.Failure — how an operation can fail

An operation fails with a report of the library, with an error of the connection
itself, with a complaint about a column without a type or an unknown
placeholder style, or because a value was used in a way its kind does not allow
(`Misuse`).  `Failure.isArgumentFault` marks the failures that a table definition
turns into a report.
-/
import SchemaChange.Report

set_option autoImplicit false

namespace SchemaChange

/-- A use of a value that its kind does not allow. -/
inductive Misuse where
  /-- an argument of the wrong kind, or the wrong arguments -/
  | wrongKind
  /-- a search in a value that holds nothing, whose kind is named -/
  | notSearchable (kindName : String)
  /-- a text indexed by a name -/
  | textIndexedByName
  /-- a list indexed by a name -/
  | listIndexedByName
  /-- an operation that the value does not have -/
  | missingOperation
  /-- a key that a map does not have -/
  | missingKey
  /-- a value of the right kind that cannot be read -/
  | unreadable
  /-- an integer numeral that is too long -/
  | tooManyDigits (count : Nat)
  /-- a number too great for its use -/
  | tooGreat
  deriving DecidableEq, Repr

/-- The kinds of misuse that callers tell apart. -/
inductive Misuse.Category where
  | kind
  | operation
  | key
  | content
  | range
  deriving DecidableEq, Repr

namespace Misuse

/-- The category of a misuse. -/
def category : Misuse → Category
  | .wrongKind | .notSearchable _ | .textIndexedByName | .listIndexedByName => .kind
  | .missingOperation => .operation
  | .missingKey => .key
  | .unreadable | .tooManyDigits _ => .content
  | .tooGreat => .range

/-- The wording of a misuse where a report quotes it. -/
def message : Misuse → String
  | .notSearchable kindName => "argument of type '" ++ kindName ++ "' is not iterable"
  | .textIndexedByName => "string indices must be integers, not 'str'"
  | .listIndexedByName => "list indices must be integers or slices, not str"
  | .tooManyDigits count =>
    "Exceeds the limit (4300 digits) for integer string conversion: value has "
      ++ toString count ++ " digits; use sys.set_int_max_str_digits() to increase the limit"
  | _ => ""

end Misuse

/-- How an operation can fail. -/
inductive Failure where
  | report (report : Report)
  /-- an error of a connection itself -/
  | client (message : String)
  | untypedColumn
  | unknownPlaceholderStyle (style : String)
  | misuse (cause : Misuse)

namespace Failure

/-- The message of a failure. -/
def message : Failure → String
  | .report r => r.message
  | .client message => message
  | .untypedColumn => "Column specification requires a type"
  | .unknownPlaceholderStyle style => "Unknown placeholder style: " ++ style
  | .misuse cause => cause.message

/-- Whether a failure tells that an argument has the wrong kind or content. -/
def isArgumentFault : Failure → Bool
  | .untypedColumn | .unknownPlaceholderStyle _ => true
  | .misuse cause => cause.category == .kind || cause.category == .content
  | _ => false

end Failure

/-- What succeeds with an answer or fails. -/
abbrev Attempt (α : Type) := Except Failure α

namespace Attempt

/-- The attempt that fails by misuse of a value. -/
def misuse {α : Type} (cause : Misuse) : Attempt α :=
  .error (.misuse cause)

/-- The attempt that fails with a report. -/
def report {α : Type} (report : Report) : Attempt α :=
  .error (.report report)

/-- An attempt whose argument faults are turned into other failures. -/
def explaining {α : Type} (explain : Failure → Failure) : Attempt α → Attempt α
  | .ok a => .ok a
  | .error failure => .error (if failure.isArgumentFault then explain failure else failure)

/-- An attempt succeeds as it did before its failures were explained. -/
theorem explaining_eq_ok_iff {α : Type} {explain : Failure → Failure} {attempt : Attempt α} {a : α} :
    explaining explain attempt = .ok a ↔ attempt = .ok a := by
  cases attempt with
  | ok b => rfl
  | error failure => exact iff_of_false nofun nofun

end Attempt

end SchemaChange
