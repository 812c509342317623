/-
# SchemaChange.Value.Basic — the values that operations are given

Schema changes, parameters, configurations and query results are described by
values of many kinds, and the library answers for every one of them.  A `Value`
is a scalar, a list, a map that keeps the order of its entries, or one of the
library's own descriptions.  A map entry is found by `sameKey`: numbers are
compared as numbers, whatever their kind, and a column kind by the text of its token.

The main statement is the law of `Entries` that `lookup_insert_same` reads back what
was put.
-/
import SchemaChange.Column.Kind
import SchemaChange.Engine
import SchemaChange.Numeric.Binary64

set_option autoImplicit false

namespace SchemaChange

/-- What is said about a column, each attribute by something of type `α`. -/
structure ColumnAttributes (α : Type) where
  type : ColumnType
  length : α
  unsigned : α
  primaryKey : α
  autoIncrement : α
  notNull : α
  unique : α
  null : α
  defaultValue : α

/-- A connection that the caller made: one that answers queries itself, or the client library's
own connection to an engine. -/
inductive Handle where
  | plain
  | raw (engine : Engine)
  deriving DecidableEq, Repr

/-- A value that an operation may be given or may answer. -/
inductive Value where
  | null
  | bool (value : Bool)
  | int (value : Int)
  | float (value : Binary64)
  | text (value : String)
  | list (items : List Value)
  | map (entries : List (Value × Value))
  /-- an abstract column type -/
  | kind (kind : ColumnKind)
  /-- the description of a column -/
  | spec (attributes : ColumnAttributes Value)
  /-- the description of a table: its columns by name, and whether it may exist already -/
  | table (columns : List (Value × Value)) (ifNotExists : Value)
  /-- the actions of a foreign key -/
  | foreignKey (onUpdate onDelete : Value)
  /-- the native result of a query -/
  | result (rows : Value) (rowcount : Int)
  /-- an entry of the migrations table -/
  | record (name runOn id : Value)
  /-- an error of a client library, by its text -/
  | fault (text : String)
  | connection (handle : Handle)

/-- The description of a column by values. -/
abbrev ColumnSpec := ColumnAttributes Value

/-- The entries of a map, in order. -/
abbrev Entries := List (Value × Value)

namespace Value

instance : Inhabited Value := ⟨.null⟩

/-- Whether a value counts as true: null, false, zero, and what is empty do not. -/
def truthy : Value → Bool
  | .null => false
  | .bool b => b
  | .int n => n != 0
  | .float x => x.isNonzero
  | .text s => s != ""
  | .list items => !items.isEmpty
  | .map entries => !entries.isEmpty
  | _ => true

/-- Whether a value is null. -/
def isNull : Value → Bool
  | .null => true
  | _ => false

/-- The text that a value is made of: a text itself, or the token of a column kind. -/
def text? : Value → Option String
  | .text s => some s
  | .kind k => some k.token
  | _ => none

/-- The integer that a truth value or an integer stands for. -/
def integer? : Value → Option Int
  | .bool b => some (if b then 1 else 0)
  | .int n => some n
  | _ => none

/-- Whether two values are one and the same map key; a column kind and the text of its token
are. -/
def sameKey : Value → Value → Bool
  | .null, .null => true
  | .text a, .text b => a == b
  | .kind a, .kind b => a == b
  | .text a, .kind b => a == b.token
  | .kind a, .text b => a.token == b
  | .float a, .float b => a.sameNumber b
  | .float a, .int n => a.isInteger n
  | .float a, .bool b => a.isInteger (if b then 1 else 0)
  | .int n, .float b => b.isInteger n
  | .bool a, .float b => b.isInteger (if a then 1 else 0)
  | .int m, .int n => m == n
  | .int m, .bool b => m == (if b then 1 else 0)
  | .bool a, .int n => n == (if a then 1 else 0)
  | .bool a, .bool b => a == b
  | .foreignKey u d, .foreignKey u' d' => sameKey u u' && sameKey d d'
  | .record n r i, .record n' r' i' => sameKey n n' && sameKey r r' && sameKey i i'
  | _, _ => false

/-- Whether a value may be a map key: what can be changed in place may not. -/
def isKey : Value → Bool
  | .list _ | .map _ | .spec _ | .table _ _ | .result _ _ => false
  | .foreignKey u d => isKey u && isKey d
  | .record n r i => isKey n && isKey r && isKey i
  | _ => true

end Value

namespace Entries

/-- The value of a key. -/
def lookup (key : Value) : Entries → Option Value
  | [] => none
  | (k, v) :: rest => if Value.sameKey key k then some v else lookup key rest

/-- The value of a text key. -/
def get? (entries : Entries) (key : String) : Option Value :=
  lookup (.text key) entries

/-- The value of a text key, or a value that stands for an absent one. -/
def getD (entries : Entries) (key : String) (default : Value) : Value :=
  (entries.get? key).getD default

/-- Whether a text is a key. -/
def contains (entries : Entries) (key : String) : Bool :=
  (entries.get? key).isSome

/-- The entries with a key bound to a value, in the place of the key if it is already there and
else at the end. -/
def insert (key value : Value) : Entries → Entries
  | [] => [(key, value)]
  | (k, v) :: rest =>
    if Value.sameKey key k then (k, value) :: rest else (k, v) :: insert key value rest

/-- The entries with a text key bound to a value. -/
def put (entries : Entries) (key : String) (value : Value) : Entries :=
  insert (.text key) value entries

/-- The entries without a text key. -/
def erase (entries : Entries) (key : String) : Entries :=
  entries.filter fun entry => !Value.sameKey (.text key) entry.1

/-- The entries overridden and extended by others, one after the other. -/
def update (entries others : Entries) : Entries :=
  others.foldl (fun all entry => insert entry.1 entry.2 all) entries

/-- The keys, in order. -/
def keys (entries : Entries) : List Value :=
  entries.map (·.1)

theorem lookup_insert_same {key value : Value} {entries : Entries}
    (h : Value.sameKey key key = true) : lookup key (insert key value entries) = some value := by
  induction entries with
  | nil => simp [insert, lookup, h]
  | cons entry rest ih =>
    obtain ⟨k, v⟩ := entry
    by_cases hk : Value.sameKey key k = true
    · simp [insert, lookup, hk]
    · simp [insert, lookup, hk, ih]

theorem get?_put_same (entries : Entries) (key : String) (value : Value) :
    (entries.put key value).get? key = some value :=
  lookup_insert_same (by simp [Value.sameKey])

end Entries

end SchemaChange
