/-
# SchemaChange.Proofs.Value.Written — values whose text can be written

A value is written by `Value.display`, which gives an integer all its digits.  There is a limit to
that: an integer of more than `Numeral.maxDigits` digits cannot be written, and a value cannot that
holds one anywhere.  `Value.written?` is the text of a value under this limit.

* `written?_eq_some_iff` — a writable value is written as it is displayed, and no other is written.
* `isWritable_of_mem`, `isWritable_of_lookup` — what is found in writable entries is writable.
-/
import SchemaChange.Numeric.Numeral
import SchemaChange.Value.Display

set_option autoImplicit false

namespace SchemaChange

/-- Whether an integer has no more digits than can be written; its sign does not count. -/
def Numeral.isWritable (n : Int) : Bool :=
  (Nat.toDigits 10 n.natAbs).length ≤ maxDigits

/-- What is looked up is the value of an entry. -/
theorem Entries.exists_mem_of_lookup {key value : Value} {entries : Entries}
    (found : lookup key entries = some value) : ∃ own, (own, value) ∈ entries := by
  induction entries with
  | nil => cases found
  | cons entry rest ih =>
      obtain ⟨own, first⟩ := entry
      rw [lookup] at found
      split at found
      · cases found
        exact ⟨own, List.mem_cons_self⟩
      · obtain ⟨other, member⟩ := ih found
        exact ⟨other, List.mem_cons_of_mem _ member⟩

namespace Value

mutual

/-- Whether no integer in a value is too long to be written. -/
def isWritable : Value → Bool
  | .int n => Numeral.isWritable n
  | .list items => areWritable items
  | .map entries => entriesWritable entries
  | .spec attributes => attributesWritable attributes
  | .table columns ifNotExists => entriesWritable columns && isWritable ifNotExists
  | .foreignKey onUpdate onDelete => isWritable onUpdate && isWritable onDelete
  | .result rows rowcount => isWritable rows && Numeral.isWritable rowcount
  | .record name runOn id => isWritable name && isWritable runOn && isWritable id
  | _ => true

/-- Whether all items of a list are writable. -/
def areWritable : List Value → Bool
  | [] => true
  | item :: items => isWritable item && areWritable items

/-- Whether all keys and values of entries are writable. -/
def entriesWritable : List (Value × Value) → Bool
  | [] => true
  | (key, value) :: entries => isWritable key && isWritable value && entriesWritable entries

/-- Whether all that is said about a column is writable. -/
def attributesWritable : ColumnAttributes Value → Bool
  | ⟨_, length, unsigned, primaryKey, autoIncrement, notNull, unique, nullable, defaultValue⟩ =>
    isWritable length && isWritable unsigned && isWritable primaryKey && isWritable autoIncrement
      && isWritable notNull && isWritable unique && isWritable nullable && isWritable defaultValue

end

/-- The text of a value, unless an integer in it is too long to be written. -/
def written? (value : Value) : Option String :=
  if value.isWritable then some value.display else none

theorem written?_eq_some_iff {value : Value} {text : String} :
    value.written? = some text ↔ value.isWritable = true ∧ value.display = text := by
  rw [written?, Option.ite_none_right_eq_some, Option.some.injEq]

theorem written?_of_isWritable {value : Value} (writable : value.isWritable = true) :
    value.written? = some value.display :=
  written?_eq_some_iff.2 ⟨writable, rfl⟩

variable {entries : Entries} {key value : Value}

theorem entriesWritable_cons {rest : Entries} :
    entriesWritable ((key, value) :: rest) = true ↔
      key.isWritable = true ∧ value.isWritable = true ∧ entriesWritable rest = true := by
  rw [entriesWritable, Bool.and_eq_true, Bool.and_eq_true, and_assoc]

/-- An entry of writable entries has a writable value. -/
theorem isWritable_of_mem (writable : entriesWritable entries = true)
    (member : (key, value) ∈ entries) : value.isWritable = true := by
  induction entries with
  | nil => cases member
  | cons entry rest ih =>
      obtain ⟨-, first, others⟩ := entriesWritable_cons.1 writable
      rcases List.mem_cons.1 member with rfl | later
      · exact first
      · exact ih others later

/-- What is looked up in writable entries is writable. -/
theorem isWritable_of_lookup (writable : entriesWritable entries = true)
    (found : Entries.lookup key entries = some value) : value.isWritable = true := by
  obtain ⟨_, member⟩ := Entries.exists_mem_of_lookup found
  exact isWritable_of_mem writable member

end Value

end SchemaChange
