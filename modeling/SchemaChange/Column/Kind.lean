/-
# SchemaChange.Column.Kind — the abstract types of columns

A column has one of seventeen kinds that every engine renders in its own way, or
a type that is given by name and passed through.  A kind is known by its token and
by its title; `ColumnType.ofText` recognises both, without regard to case, and
leaves every other text as a name.
-/
import SchemaChange.Text.Case

set_option autoImplicit false

namespace SchemaChange

/-- An abstract column type that every engine understands. -/
inductive ColumnKind where
  | char
  | string
  | text
  | smallint
  | bigint
  | integer
  | smallInteger
  | bigInteger
  | real
  | date
  | dateTime
  | time
  | blob
  | timestamp
  | binary
  | boolean
  | decimal
  deriving DecidableEq, Repr

namespace ColumnKind

/-- All kinds, in the order in which a type name is compared with them. -/
def all : List ColumnKind :=
  [.char, .string, .text, .smallint, .bigint, .integer, .smallInteger, .bigInteger, .real, .date,
   .dateTime, .time, .blob, .timestamp, .binary, .boolean, .decimal]

/-- The lower-case word that stands for a kind in a schema description. -/
def token : ColumnKind → String
  | .char => "char"
  | .string => "string"
  | .text => "text"
  | .smallint => "smallint"
  | .bigint => "bigint"
  | .integer => "int"
  | .smallInteger => "smallinteger"
  | .bigInteger => "biginteger"
  | .real => "real"
  | .date => "date"
  | .dateTime => "datetime"
  | .time => "time"
  | .blob => "blob"
  | .timestamp => "timestamp"
  | .binary => "binary"
  | .boolean => "boolean"
  | .decimal => "decimal"

/-- The upper-case name of a kind. -/
def title : ColumnKind → String
  | .char => "CHAR"
  | .string => "STRING"
  | .text => "TEXT"
  | .smallint => "SMALLINT"
  | .bigint => "BIGINT"
  | .integer => "INTEGER"
  | .smallInteger => "SMALL_INTEGER"
  | .bigInteger => "BIG_INTEGER"
  | .real => "REAL"
  | .date => "DATE"
  | .dateTime => "DATE_TIME"
  | .time => "TIME"
  | .blob => "BLOB"
  | .timestamp => "TIMESTAMP"
  | .binary => "BINARY"
  | .boolean => "BOOLEAN"
  | .decimal => "DECIMAL"

/-- How a kind is shown where a text is expected. -/
def display (kind : ColumnKind) : String :=
  "DataType." ++ kind.title

/-- The kind with a title. -/
def ofTitle? (title : String) : Option ColumnKind :=
  all.find? fun kind => kind.title == title

/-- Whether a text names the kind: in lower case it is the token, or in upper case the title. -/
def isNamedBy (text : List Char) (kind : ColumnKind) : Bool :=
  Text.lower text == kind.token.toList || Text.upper text == kind.title.toList

theorem mem_all (kind : ColumnKind) : kind ∈ all := by
  cases kind <;> decide

end ColumnKind

/-- The type of a column: a kind, or a name that no kind has. -/
inductive ColumnType where
  | kind (kind : ColumnKind)
  | named (name : String)
  deriving DecidableEq, Repr

namespace ColumnType

/-- The type that a text names. -/
def ofText (text : String) : ColumnType :=
  match ColumnKind.all.find? (ColumnKind.isNamedBy text.toList) with
  | some known => .kind known
  | none => .named text

end ColumnType

end SchemaChange
