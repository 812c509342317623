/-
# SchemaChange.Value.Display — values as text

`Value.display` is the text of a value where a text is expected: a text itself,
without quotes.  `Value.literal` is its text inside lists, maps and descriptions,
where texts are quoted.  The two differ only for texts, column kinds and errors
of a client.

Both write an integer with all its digits.  There is a limit, `Numeral.maxDigits`,
beyond which an integer is not written and neither is what holds it; what depends
on it is stated of values within the limit (`Value.isWritable` in
`SchemaChange.Proofs.Value.Written`).
-/
import SchemaChange.Numeric.Notation
import SchemaChange.Text.Quoted
import SchemaChange.Value.Basic

set_option autoImplicit false

namespace SchemaChange

/-- A text between quotes. -/
def quotedText (s : String) : String :=
  String.ofList (Text.quoted s.toList)

/-- Texts one after the other with a comma and a space between neighbours. -/
def commaSeparated (texts : List String) : String :=
  String.intercalate ", " texts

/-- A kind as it is written inside a description. -/
def ColumnKind.literal (kind : ColumnKind) : String :=
  "<" ++ kind.display ++ ": " ++ quotedText kind.token ++ ">"

/-- A column type as it is written inside a description. -/
def ColumnType.literal : ColumnType → String
  | .kind known => known.literal
  | .named name => quotedText name

/-- A truth value as text. -/
def boolText (b : Bool) : String :=
  if b then "True" else "False"

namespace Value

mutual

/-- The text of a value inside lists, maps and descriptions. -/
def literal : Value → String
  | .null => "None"
  | .bool b => boolText b
  | .int n => toString n
  | .float x => String.ofList x.text
  | .text s => quotedText s
  | .list items => "[" ++ commaSeparated (itemLiterals items) ++ "]"
  | .map entries => "\x7b" ++ commaSeparated (entryLiterals entries) ++ "\x7d"
  | .kind k => k.literal
  | .spec attributes => attributesLiteral attributes
  | .table columns ifNotExists =>
    "TableOptions(columns=\x7b" ++ commaSeparated (entryLiterals columns) ++ "\x7d, if_not_exists="
      ++ literal ifNotExists ++ ")"
  | .foreignKey onUpdate onDelete =>
    "ForeignKeyOptions(on_update=" ++ literal onUpdate ++ ", on_delete=" ++ literal onDelete ++ ")"
  | .result rows rowcount =>
    "QueryResult(rows=" ++ literal rows ++ ", rowcount=" ++ toString rowcount ++ ")"
  | .record name runOn id =>
    "MigrationRecord(name=" ++ literal name ++ ", run_on=" ++ literal runOn ++ ", id="
      ++ literal id ++ ")"
  | .fault message => "Exception(" ++ quotedText message ++ ")"
  | .connection _ => "<connection>"

/-- The texts of the items of a list. -/
def itemLiterals : List Value → List String
  | [] => []
  | item :: items => literal item :: itemLiterals items

/-- The texts of the entries of a map. -/
def entryLiterals : List (Value × Value) → List String
  | [] => []
  | (key, value) :: entries => (literal key ++ ": " ++ literal value) :: entryLiterals entries

/-- The text of the description of a column. -/
def attributesLiteral : ColumnAttributes Value → String
  | ⟨type, length, unsigned, primaryKey, autoIncrement, notNull, unique, nullable, defaultValue⟩ =>
    "ColumnSpec(type=" ++ type.literal ++ ", length=" ++ literal length ++ ", unsigned="
      ++ literal unsigned ++ ", primary_key=" ++ literal primaryKey ++ ", auto_increment="
      ++ literal autoIncrement ++ ", not_null=" ++ literal notNull ++ ", unique=" ++ literal unique
      ++ ", null=" ++ literal nullable ++ ", default_value=" ++ literal defaultValue ++ ")"

end

/-- The text of a value where a text is expected. -/
def display : Value → String
  | .text s => s
  | .kind k => k.display
  | .fault message => message
  | value => value.literal

theorem display_text (s : String) : (Value.text s).display = s := rfl

end Value

end SchemaChange
