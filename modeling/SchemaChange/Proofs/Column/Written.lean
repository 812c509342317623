/-
# SchemaChange.Proofs.Column.Written — writable descriptions of columns

A statement writes the length and the default of a column as they are described.  A description
that holds no integer too long to be written is read without adding any, so both can be written of
every column that is read from it (`ColumnSpec.Written`).

* `ColumnSpec.ofValue_isWritable`, `ColumnSpec.ofValue_written` — for the description of a column.
* `Table.ofValue_written` — for the columns of a table.
-/
import SchemaChange.Proofs.Operation.Reading
import SchemaChange.Proofs.Value.Written

set_option autoImplicit false

namespace SchemaChange

namespace ColumnSpec

/-- What a statement writes of a column, its length and its default, can be written. -/
def Written (spec : ColumnSpec) : Prop :=
  spec.length.written? = some spec.length.display ∧
    spec.defaultValue.written? = some spec.defaultValue.display

/-- Writable attributes can be written, and so can those of them that statements hold. -/
theorem written_of_isWritable {spec : ColumnSpec}
    (writable : (Value.spec spec).isWritable = true) : spec.Written := by
  obtain ⟨type, length, unsigned, primaryKey, autoIncrement, notNull, unique, nullable, default⟩ := spec
  simp only [Value.isWritable, Value.attributesWritable, Bool.and_eq_true] at writable
  obtain ⟨⟨⟨⟨⟨⟨⟨length, -⟩, -⟩, -⟩, -⟩, -⟩, -⟩, defaultValue⟩ := writable
  exact ⟨Value.written?_of_isWritable length, Value.written?_of_isWritable defaultValue⟩

/-- A draft holds writable attributes only. -/
def Draft.IsWritable (draft : Draft) : Prop :=
  ∀ field, ((draft field).getD .null).isWritable = true

theorem Draft.IsWritable.extend {draft : Draft} {entries : Entries} (held : draft.IsWritable)
    (writable : Value.entriesWritable entries = true) : (draft.extend entries).IsWritable := by
  induction entries generalizing draft with
  | nil => exact held
  | cons entry rest ih =>
      obtain ⟨key, value⟩ := entry
      obtain ⟨-, first, others⟩ := Value.entriesWritable_cons.1 writable
      rw [Draft.extend]
      cases Attribute.ofKey? key with
      | none => exact ih held others
      | some field =>
          refine ih (fun other => ?_) others
          rw [Draft.set]
          split
          · exact first
          · exact held other

/-- What stands for an attribute that is not given is writable. -/
theorem Draft.IsWritable.getD {draft : Draft} (held : draft.IsWritable) (field : Attribute)
    {fallback : Value} (writable : fallback.isWritable = true) :
    ((draft field).getD fallback).isWritable = true := by
  have given := held field
  cases found : draft field with
  | none => exact writable
  | some value => rwa [found] at given

/-- A writable description is read as writable attributes. -/
theorem ofValue_isWritable {value : Value} {spec : ColumnSpec} (writable : value.isWritable = true)
    (read : (ofValue value).result = .ok spec) : (Value.spec spec).isWritable = true := by
  have drafted (type : ColumnType) {draft : Draft} (held : draft.IsWritable) :
      (Value.spec (ofDraft type draft)).isWritable = true := by
    have unset (field : Attribute) := held.getD field (rfl : Value.null.isWritable = true)
    have off (field : Attribute) := held.getD field (rfl : (Value.bool false).isWritable = true)
    simp only [Value.isWritable, ofDraft, Value.attributesWritable, unset, off, Bool.and_self]
  have nothing : Draft.IsWritable fun _ => none := fun _ => rfl
  cases value with
  | spec attributes =>
      cases read
      exact writable
  | text text =>
      cases read
      exact drafted _ nothing
  | kind kind =>
      cases read
      exact drafted _ nothing
  | map entries =>
      change (ofEntries entries).result = .ok spec at read
      rw [ofEntries] at read
      cases type : draft entries .type with
      | none =>
          rw [type] at read
          cases read
      | some given =>
          rw [type] at read
          cases read
          exact drafted _ (nothing.extend writable)
  | _ => cases read

theorem ofValue_written {value : Value} {spec : ColumnSpec} (writable : value.isWritable = true)
    (read : (ofValue value).result = .ok spec) : spec.Written :=
  written_of_isWritable (ofValue_isWritable writable read)

end ColumnSpec

namespace Table

theorem listed_isWritable {value : Value} (writable : value.isWritable = true) :
    Value.entriesWritable (listed value) = true := by
  cases value with
  | table columns ifNotExists => exact (Bool.and_eq_true_iff.1 writable).1
  | map entries =>
      rw [listed]
      cases found : Entries.get? entries "columns" with
      | none => exact writable
      | some columns =>
          have nested := Value.isWritable_of_lookup writable found
          cases columns with
          | map columns => exact nested
          | _ => rfl
  | _ => rfl

/-- What is written of the columns of a table can be written if its description is writable. -/
theorem ofValue_written {value : Value} {table : Table} (writable : value.isWritable = true)
    (read : (ofValue value).result = .ok table) : ∀ column ∈ table.columns, column.2.Written := by
  intro column member
  obtain ⟨description, described, readIt⟩ := readColumns_mem (ofValue_columns read) member
  exact ColumnSpec.ofValue_written
    (Value.isWritable_of_mem (listed_isWritable writable) described) readIt

end Table

end SchemaChange
