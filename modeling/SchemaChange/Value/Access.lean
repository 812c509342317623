/-
# SchemaChange.Value.Access — what can be done with a value of any kind

Each operation here is defined on the kinds of values that allow it and fails with
a `Misuse` on the others: taking the items of a value, counting them, searching
them, reading a map from pairs, joining texts, and reading numbers.  Texts, column
kinds, lists and maps are the values with items; the items of a map are its keys.
-/
import SchemaChange.Failure
import SchemaChange.Numeric.Numeral
import SchemaChange.Text.Search

set_option autoImplicit false

namespace SchemaChange.Value

/-- The name of the kind of a value in messages. -/
def kindName : Value → String
  | .null => "NoneType"
  | .bool _ => "bool"
  | .int _ => "int"
  | .float _ => "float"
  | .text _ => "str"
  | .list _ => "list"
  | .map _ => "dict"
  | .kind _ => "DataType"
  | .spec _ => "ColumnSpec"
  | .table _ _ => "TableOptions"
  | .foreignKey _ _ => "ForeignKeyOptions"
  | .result _ _ => "QueryResult"
  | .record _ _ _ => "MigrationRecord"
  | .fault _ => "Exception"
  | .connection _ => "Connection"

/-- A text of one character. -/
def ofChar (c : Char) : Value :=
  .text (String.ofList [c])

/-- The items of a value. -/
def items : Value → Attempt (List Value)
  | .text s => .ok (s.toList.map ofChar)
  | .kind k => .ok (k.token.toList.map ofChar)
  | .list items => .ok items
  | .map entries => .ok (Entries.keys entries)
  | _ => .misuse .wrongKind

/-- The number of items of a value. -/
def size (value : Value) : Attempt Nat :=
  value.items.map List.length

/-- Whether a word is a key of a map, an item of a list or a part of a text. -/
def has (value : Value) (word : String) : Attempt Bool :=
  match value with
  | .map entries => .ok (Entries.contains entries word)
  | .list items => .ok (items.any fun item => item.text? == some word)
  | .text s => .ok (Text.occurs word.toList s.toList)
  | .kind k => .ok (Text.occurs word.toList k.token.toList)
  | value => .misuse (.notSearchable value.kindName)

/-- The value of a name in a map. -/
def index (value : Value) (name : String) : Attempt Value :=
  match value with
  | .map entries =>
    match Entries.get? entries name with
    | some found => .ok found
    | none => .misuse .missingKey
  | .text _ | .kind _ => .misuse .textIndexedByName
  | .list _ => .misuse .listIndexedByName
  | _ => .misuse .wrongKind

/-- The entries of a map; other values have none to give. -/
def entries : Value → Attempt Entries
  | .map entries => .ok entries
  | _ => .misuse .missingOperation

/-- The text that a value is made of, for an operation that only texts have. -/
def asText (value : Value) : Attempt String :=
  match value.text? with
  | some s => .ok s
  | none => .misuse .missingOperation

/-- A key and a value out of two items. -/
def pair (value : Value) : Attempt (Value × Value) := do
  match ← value.items with
  | [key, item] => if key.isKey then .ok (key, item) else .misuse .wrongKind
  | _ => .misuse .unreadable

/-- Entries extended by pairs, one after the other; a key that comes again keeps its place. -/
def addPairs : Entries → List Value → Attempt Entries
  | entries, [] => .ok entries
  | entries, item :: items => do
    let (key, value) ← item.pair
    addPairs (Entries.insert key value entries) items

/-- The entries of a map, or those that the items of a value list as pairs. -/
def readEntries (value : Value) : Attempt Entries :=
  match value with
  | .map entries => .ok entries
  | value => do addPairs [] (← value.items)

/-- Texts joined with a separator; other values cannot be joined. -/
def join (separator : String) (values : List Value) : Attempt String :=
  match values.mapM text? with
  | some texts => .ok (String.intercalate separator texts)
  | none => .misuse .wrongKind

/-- What an unreadable integer numeral amounts to. -/
def ofNumeralFault : Numeral.Fault → Misuse
  | .malformed => .unreadable
  | .tooManyDigits count => .tooManyDigits count

/-- The integer that a text writes. -/
def readInteger (s : String) : Attempt Int :=
  match Numeral.readInt s.toList with
  | .ok n => .ok n
  | .error reason => .misuse (ofNumeralFault reason)

/-- The integer part of a floating-point number. -/
def truncate (x : Binary64) : Attempt Int :=
  match x with
  | .nan => .misuse .unreadable
  | .infinite _ => .misuse .tooGreat
  | .finite negative coefficient exponent =>
    .ok (Binary64.signed negative (Binary64.magnitude coefficient exponent))

/-- The integer that a value stands for. -/
def toInteger : Value → Attempt Int
  | .bool b => .ok (if b then 1 else 0)
  | .int n => .ok n
  | .float x => truncate x
  | .text s => readInteger s
  | .kind k => readInteger k.token
  | _ => .misuse .wrongKind

/-- The floating-point number nearest to an integer, unless there is none. -/
def nearest (n : Int) : Attempt Binary64 :=
  match Binary64.ofInt n with
  | .infinite _ => .misuse .tooGreat
  | x => .ok x

/-- The floating-point number that a text writes. -/
def readFloat (s : String) : Attempt Binary64 :=
  match Numeral.readBinary64? s.toList with
  | some x => .ok x
  | none => .misuse .unreadable

/-- The floating-point number that a value stands for. -/
def toFloat : Value → Attempt Binary64
  | .bool b => nearest (if b then 1 else 0)
  | .int n => nearest n
  | .float x => .ok x
  | .text s => readFloat s
  | .kind k => readFloat k.token
  | _ => .misuse .wrongKind

/-- A single name as a list, or the items of a value. -/
def asList (value : Value) : Attempt (List Value) :=
  match value.text? with
  | some _ => .ok [value]
  | none => value.items

theorem items_list (xs : List Value) : (Value.list xs).items = .ok xs := rfl

theorem size_list (xs : List Value) : (Value.list xs).size = .ok xs.length := rfl

theorem readEntries_map (entries : Entries) : (Value.map entries).readEntries = .ok entries := rfl

end SchemaChange.Value
