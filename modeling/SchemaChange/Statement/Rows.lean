/-
# SchemaChange.Statement.Rows — the rows in a query result

Connections answer queries in several shapes: a list of rows, an envelope with the
rows inside, or nothing that holds rows.  `normalizeRows` reads the rows out of any
shape; a row is a map, or a list of pairs that is read as one.  Reading rows that
have been read changes nothing (`normalizeRows_rowsValue`).
-/
import SchemaChange.Value.Access

set_option autoImplicit false

namespace SchemaChange.Statement

/-- A row: its values by column name. -/
abbrev Row := Entries

/-- The rows that an answer carries: those of an envelope, or the answer itself. -/
def carried (answer : Value) : Value :=
  match answer with
  | .map entries => Entries.getD entries "rows" .null
  | .result rows _ => rows
  | value => value

/-- The rows of a native query result. -/
def normalizeRows (answer : Value) : Attempt (List Row) :=
  match carried answer with
  | .list rows => rows.mapM Value.readEntries
  | _ => .ok []

/-- Rows as a value. -/
def rowsValue (rows : List Row) : Value :=
  .list (rows.map .map)

theorem normalizeRows_rowsValue (rows : List Row) : normalizeRows (rowsValue rows) = .ok rows := by
  simp only [normalizeRows, carried, rowsValue]
  induction rows with
  | nil => rfl
  | cons row rest ih =>
    simp only [List.map_cons, List.mapM_cons, Value.readEntries_map]
    rw [ih]
    rfl

end SchemaChange.Statement
