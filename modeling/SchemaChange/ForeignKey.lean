/-
# SchemaChange.ForeignKey — the actions of a foreign key

What happens to referencing rows when a referenced row is updated or deleted.  The
actions are given by a map in which each has two spellings, or not at all.
-/
import SchemaChange.Value.Access

set_option autoImplicit false

namespace SchemaChange

/-- The actions of a foreign key; null where none is given. -/
structure ForeignKeyActions where
  onUpdate : Value
  onDelete : Value

namespace ForeignKeyActions

/-- Reads the actions from a value of any shape. -/
def ofValue (value : Value) : Attempt ForeignKeyActions :=
  match value with
  | .null => .ok ⟨.null, .null⟩
  | .foreignKey onUpdate onDelete => .ok ⟨onUpdate, onDelete⟩
  | .map entries =>
    .ok ⟨Entries.getD entries "on_update" (Entries.getD entries "onUpdate" .null),
      Entries.getD entries "on_delete" (Entries.getD entries "onDelete" .null)⟩
  | _ => .misuse .missingOperation

/-- The actions as a value. -/
def toValue (actions : ForeignKeyActions) : Value :=
  .foreignKey actions.onUpdate actions.onDelete

end ForeignKeyActions

end SchemaChange
