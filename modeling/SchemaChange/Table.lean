/-
# SchemaChange.Table — reading the description of a table

A table is described by a map from column names to column descriptions, bare or
under the key `columns` beside the table's own options.  `Table.ofValue` reads
every shape; `Table.ofValue_toValue` says that a table that has been read is read
again as it is.
-/
import SchemaChange.Column.Spec

set_option autoImplicit false

namespace SchemaChange

/-- A table: its columns by name, in order, and whether it may exist already. -/
structure Table where
  columns : List (Value × ColumnSpec)
  ifNotExists : Value

namespace Table

/-- Reads the columns of a table one after the other. -/
def readColumns : Entries → Noted (List (Value × ColumnSpec))
  | [] => pure []
  | (name, description) :: rest => do
    let spec ← ColumnSpec.ofValue description
    let others ← readColumns rest
    pure ((name, spec) :: others)

/-- Whether the options of a table let it exist already, under either spelling. -/
def mayExist (options : Entries) : Bool :=
  (options.getD "if_not_exists" (options.getD "ifNotExists" (.bool false))).truthy

/-- Reads a table from a map, whose columns may stand under a key of their own. -/
def ofEntries (entries : Entries) : Noted Table :=
  match entries.get? "columns" with
  | some columns => do
    let columns ← readColumns (← columns.entries)
    pure ⟨columns, .bool (mayExist entries)⟩
  | none => do
    let columns ← readColumns entries
    pure ⟨columns, .bool false⟩

/-- Reads the description of a table from a value of any shape. -/
def ofValue (value : Value) : Noted Table :=
  match value with
  | .table columns ifNotExists => do
    let columns ← readColumns columns
    pure ⟨columns, ifNotExists⟩
  | .map entries => ofEntries entries
  | value => do
    if ← value.has "columns" then
      let _ ← value.index "columns"
    Noted.ofAttempt (.misuse .missingOperation)

/-- The columns as entries of a map. -/
def columnEntries (table : Table) : Entries :=
  table.columns.map fun column => (column.1, .spec column.2)

/-- A table as a value. -/
def toValue (table : Table) : Value :=
  .table table.columnEntries table.ifNotExists

/-- The names of the columns that are flagged as primary key, in order. -/
def primaryKey (table : Table) : List Value :=
  (table.columns.filter fun column => column.2.primaryKey.truthy).map (·.1)

/-- Whether a column description flags its column as primary key. -/
def isFlagged (description : Value) : Bool :=
  match description with
  | .spec spec => spec.primaryKey.truthy
  | _ => false

/-- The names under which entries list the columns that are flagged as primary key, in order. -/
def flagged (columns : Entries) : List Value :=
  (columns.filter fun column => isFlagged column.2).map (·.1)

theorem readColumns_columnEntries (columns : List (Value × ColumnSpec)) :
    (readColumns (columns.map fun column => (column.1, Value.spec column.2))).result
      = .ok columns := by
  induction columns with
  | nil => rfl
  | cons column rest ih =>
    obtain ⟨name, spec⟩ := column
    simp only [List.map_cons, readColumns, Noted.result_bind, ColumnSpec.ofValue_spec, ih]
    rfl

theorem ofValue_toValue (table : Table) : (ofValue table.toValue).result = .ok table := by
  simp only [toValue, ofValue, columnEntries, Noted.result_bind, readColumns_columnEntries]
  rfl

end Table

end SchemaChange
