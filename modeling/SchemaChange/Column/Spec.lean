/-
# SchemaChange.Column.Spec — reading the description of a column

A column is described by a type alone, or by a map from attributes to values in
which the longer attributes have two spellings (`primary_key` and `primaryKey`).
`Attribute.ofKey?` reads a spelling; keys that are no attribute are ignored with a
note.  An attribute that is given twice has its last value, and a description without
a type is refused.
-/
import SchemaChange.Noted
import SchemaChange.Value.Access

set_option autoImplicit false

namespace SchemaChange

/-- An attribute of a column. -/
inductive Attribute where
  | type
  | length
  | unsigned
  | primaryKey
  | autoIncrement
  | notNull
  | unique
  | null
  | defaultValue
  deriving DecidableEq, Repr

namespace Attribute

/-- The spelling of an attribute with underscores. -/
def name : Attribute → String
  | .type => "type"
  | .length => "length"
  | .unsigned => "unsigned"
  | .primaryKey => "primary_key"
  | .autoIncrement => "auto_increment"
  | .notNull => "not_null"
  | .unique => "unique"
  | .null => "null"
  | .defaultValue => "default_value"

/-- The spelling of an attribute with capitals instead of underscores. -/
def camelName : Attribute → String
  | .primaryKey => "primaryKey"
  | .autoIncrement => "autoIncrement"
  | .notNull => "notNull"
  | .defaultValue => "defaultValue"
  | field => field.name

/-- All attributes, in the order in which a description lists them. -/
def all : List Attribute :=
  [.type, .length, .unsigned, .primaryKey, .autoIncrement, .notNull, .unique, .null, .defaultValue]

/-- The attribute that a name spells in either way. -/
def ofName? (name : String) : Option Attribute :=
  all.find? fun field => field.name == name || field.camelName == name

/-- The attribute that a map key spells. -/
def ofKey? : Value → Option Attribute
  | .text name => ofName? name
  | _ => none

theorem ofName?_name (field : Attribute) : ofName? field.name = some field := by
  cases field <;> rfl

theorem ofName?_camelName (field : Attribute) :
    ofName? field.camelName = some field := by
  cases field <;> rfl

end Attribute

/-- The type that a value names. -/
def ColumnType.ofValue : Value → ColumnType
  | .kind known => .kind known
  | value => .ofText value.display

namespace ColumnSpec

/-- The attributes given so far. -/
abbrev Draft := Attribute → Option Value

/-- A draft with one attribute given. -/
def Draft.set (draft : Draft) (field : Attribute) (value : Value) : Draft :=
  fun other => if other = field then some value else draft other

/-- A draft extended by the entries of a map, the later ones overriding. -/
def Draft.extend (draft : Draft) : Entries → Draft
  | [] => draft
  | (key, value) :: rest =>
    match Attribute.ofKey? key with
    | some field => Draft.extend (draft.set field value) rest
    | none => Draft.extend draft rest

/-- The attributes that a map gives. -/
def draft (entries : Entries) : Draft :=
  Draft.extend (fun _ => none) entries

/-- The notes about keys that are no attribute. -/
def ignoredNotes (entries : Entries) : List Note :=
  entries.filterMap fun entry =>
    match Attribute.ofKey? entry.1 with
    | some _ => none
    | none => some ⟨.debug, "Ignoring column attribute: " ++ entry.1.display⟩

/-- The description that a draft gives a column of a type; flags are off and the other
attributes unset where nothing is given. -/
def ofDraft (type : ColumnType) (draft : Draft) : ColumnSpec where
  type := type
  length := (draft .length).getD .null
  unsigned := (draft .unsigned).getD (.bool false)
  primaryKey := (draft .primaryKey).getD (.bool false)
  autoIncrement := (draft .autoIncrement).getD (.bool false)
  notNull := (draft .notNull).getD (.bool false)
  unique := (draft .unique).getD .null
  null := (draft .null).getD (.bool false)
  defaultValue := (draft .defaultValue).getD .null

/-- The description of a column of which nothing but the type is known. -/
def ofType (type : ColumnType) : ColumnSpec :=
  ofDraft type fun _ => none

/-- Reads the description of a column from the entries of a map. -/
def ofEntries (entries : Entries) : Noted ColumnSpec :=
  ⟨ignoredNotes entries,
    match draft entries .type with
    | some type => .ok (ofDraft (.ofValue type) (draft entries))
    | none => .error .untypedColumn⟩

/-- Reads the description of a column from a value of any shape. -/
def ofValue (value : Value) : Noted ColumnSpec :=
  match value with
  | .spec attributes => pure attributes
  | .text _ | .kind _ => pure (ofType (.ofValue value))
  | value => do ofEntries (← value.entries)

theorem ofValue_spec (spec : ColumnSpec) : (ofValue (.spec spec)).result = .ok spec := rfl

end ColumnSpec

end SchemaChange
