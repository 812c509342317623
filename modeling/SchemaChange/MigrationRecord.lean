/-
# SchemaChange.MigrationRecord — entries of the migrations table

A migration that has been run is recorded by its name and the time of its run; the
number that the database gives it may be absent.
-/
import SchemaChange.Value.Access

set_option autoImplicit false

namespace SchemaChange

/-- A migration that has been run. -/
structure MigrationRecord where
  name : Value
  runOn : Value
  id : Value

namespace MigrationRecord

/-- Reads a record from a fetched row. -/
def ofRow (row : Value) : Attempt MigrationRecord := do
  let name ← row.index "name"
  let runOn ← row.index "run_on"
  let entries ← row.entries
  .ok ⟨name, runOn, entries.getD "id" .null⟩

/-- A record as a value. -/
def toValue (record : MigrationRecord) : Value :=
  .record record.name record.runOn record.id

end MigrationRecord

end SchemaChange
