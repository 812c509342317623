/-
# SchemaChange.ServerVersion — the version of a database server

A server introduces itself by a text in which its version is the leftmost place
with three runs of decimal digits, of any script, joined by points; each run is
taken as long as possible.  `find?` finds that place, `read` its numbers, and
versions are compared number by number (`ServerVersion.le`).
-/
import SchemaChange.Value.Access

set_option autoImplicit false

namespace SchemaChange

/-- A version of a server. -/
structure ServerVersion where
  major : Nat
  minor : Nat
  patch : Nat
  deriving DecidableEq, Repr

namespace ServerVersion

open SchemaChange.Text

/-- Whether a version is at most another, by the first number in which they differ. -/
def le (a b : ServerVersion) : Bool :=
  a.major < b.major ||
    (a.major == b.major &&
      (a.minor < b.minor || (a.minor == b.minor && a.patch ≤ b.patch)))

/-- The longest run of digits at the start of a text, if there is one, and the rest. -/
def run? (text : List Char) : Option (List Char × List Char) :=
  match text.takeWhile isDigit with
  | [] => none
  | digits => some (digits, text.dropWhile isDigit)

/-- The longest run of digits at the start of a text when a point follows it, and what follows
the point. -/
def dottedRun? (text : List Char) : Option (List Char × List Char) :=
  match run? text with
  | some (digits, '.' :: rest) => some (digits, rest)
  | _ => none

/-- The three runs of digits of a version at the start of a text. -/
def runs? (text : List Char) : Option (List Char × List Char × List Char) := do
  let (major, rest) ← dottedRun? text
  let (minor, rest) ← dottedRun? rest
  let (patch, _) ← run? rest
  some (major, minor, patch)

/-- The runs of digits at the leftmost place of a text that has a version. -/
def find? : List Char → Option (List Char × List Char × List Char)
  | [] => none
  | c :: rest =>
    match runs? (c :: rest) with
    | some found => some found
    | none => find? rest

/-- The number that a run of digits writes. -/
def readRun (digits : List Char) : Attempt Nat :=
  match Numeral.boundedValue digits with
  | .ok n => .ok n
  | .error reason => .misuse (Value.ofNumeralFault reason)

/-- Reads the version in a text, if there is one. -/
def read (text : List Char) : Attempt (Option ServerVersion) :=
  match find? text with
  | none => .ok none
  | some (major, minor, patch) => do
    let major ← readRun major
    let minor ← readRun minor
    let patch ← readRun patch
    .ok (some ⟨major, minor, patch⟩)

/-- Reads the version in a value; what counts as false has none. -/
def ofValue (value : Value) : Attempt (Option ServerVersion) :=
  if !value.truthy then .ok none
  else match value.text? with
    | some text => read text.toList
    | none => .misuse .wrongKind

/-- The numbers of a version as values. -/
def toValues (version : ServerVersion) : List Value :=
  [.int version.major, .int version.minor, .int version.patch]

/-- A version as a value. -/
def toValue (version : Option ServerVersion) : Value :=
  match version with
  | some v => .list v.toValues
  | none => .null

/-- A version, or its absence, in the log. -/
def display (version : Option ServerVersion) : String :=
  match version with
  | some v => "(" ++ commaSeparated (v.toValues.map Value.display) ++ ")"
  | none => Value.null.display

end ServerVersion

end SchemaChange
