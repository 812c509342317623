/-
# SchemaChange.Dialect.Basic — rendering columns by the rules of a dialect

A dialect is a set of rules: how identifiers are quoted and parameters marked,
which keywords belong to its grammar, which types it names in its own way.  From
these rules a column definition is rendered out of four fragments, the name, the
type, the length and the constraint, with single spaces between them; an empty
fragment keeps its place.

The constraint is a sequence of tokens in a fixed order (`constraintTokens`).  A
rule is a `Value`, since a dialect can be configured with rules of any kind.
-/
import SchemaChange.Column.Spec
import SchemaChange.Dialect.Placeholder

set_option autoImplicit false

namespace SchemaChange

/-- The rules of a dialect. -/
structure Dialect where
  name : Value
  /-- what stands around an identifier; nothing if it counts as false -/
  quoteMark : Value
  /-- what replaces the brackets of a statement template -/
  bracketMark : Value
  placeholders : PlaceholderStyle
  /-- the keyword of columns that number themselves -/
  autoIncrement : Value
  /-- whether that keyword stands before that of the primary key -/
  autoIncrementFirst : Bool
  /-- whether that keyword implies the type of the column -/
  autoIncrementIsType : Bool
  allowsUnsigned : Bool
  allowsNull : Bool
  /-- the length of a text of limited length for which none is given -/
  defaultTextLength : Value
  /-- the types that never take a length -/
  unsizedTypes : List Value
  /-- the types that the dialect names in its own way -/
  ownType : ColumnSpec → Option String

/-- The name of a kind in the common grammar. -/
def ColumnKind.commonName : ColumnKind → String
  | .char => "CHAR"
  | .string => "VARCHAR"
  | .text => "TEXT"
  | .smallint => "SMALLINT"
  | .bigint => "BIGINT"
  | .integer => "INTEGER"
  | .smallInteger => "SMALLINT"
  | .bigInteger => "BIGINT"
  | .real => "REAL"
  | .date => "DATE"
  | .dateTime => "DATETIME"
  | .time => "TIME"
  | .blob => "BLOB"
  | .timestamp => "TIMESTAMP"
  | .binary => "BINARY"
  | .boolean => "BOOLEAN"
  | .decimal => "DECIMAL"

/-- A truth value in a statement. -/
def sqlBool (b : Bool) : String :=
  if b then "TRUE" else "FALSE"

/-- A text between single quotes, in which every single quote is written twice. -/
def sqlText (s : String) : String :=
  "'" ++ String.ofList (Text.replaceChar '\'' ['\'', '\''] s.toList) ++ "'"

/-- A value inlined into a statement. -/
def Value.sqlLiteral (value : Value) : String :=
  match value with
  | .null => "NULL"
  | .bool b => sqlBool b
  | .text s => sqlText s
  | .kind k => sqlText k.token
  | value => value.display

/-- A default value in a column definition; a text stands between quotes as it is. -/
def Value.sqlDefault (value : Value) : String :=
  match value with
  | .bool b => sqlBool b
  | .text s => "'" ++ s ++ "'"
  | .kind k => "'" ++ k.display ++ "'"
  | value => value.display

namespace Dialect

/-- An identifier as the dialect writes it. -/
def quote (dialect : Dialect) (identifier : Value) : Value :=
  if dialect.quoteMark.truthy then
    .text (dialect.quoteMark.display ++ identifier.display ++ dialect.quoteMark.display)
  else identifier

/-- The name of the type of a column; a type that is no kind is passed through in upper case,
with a note. -/
def typeName (dialect : Dialect) (spec : ColumnSpec) : Noted String :=
  match dialect.ownType spec with
  | some own => pure own
  | none =>
    match spec.type with
    | .kind known => pure known.commonName
    | .named name => do
      let unknown := String.ofList (Text.upper name.toList)
      Noted.note .warning ("Using unknown data type " ++ unknown)
      pure unknown

/-- The length of a column in parentheses, or nothing. -/
def lengthClause (dialect : Dialect) (spec : ColumnSpec) (type : Value) : Attempt String :=
  if !type.truthy then .ok ""
  else if !type.isKey then .misuse .wrongKind
  else if dialect.unsizedTypes.any type.sameKey then .ok ""
  else if spec.length.truthy then .ok ("(" ++ spec.length.display ++ ")")
  else if type.text? == some "VARCHAR" && dialect.defaultTextLength.truthy then
    .ok ("(" ++ dialect.defaultTextLength.display ++ ")")
  else .ok ""

/-- The tokens of a primary key and of a column that numbers itself. -/
def keyTokens (dialect : Dialect) (spec : ColumnSpec) (emitPrimaryKey : Bool) : List Value :=
  if spec.primaryKey.truthy && emitPrimaryKey then
    (if spec.autoIncrement.truthy && dialect.autoIncrementFirst then [dialect.autoIncrement] else [])
      ++ [.text "PRIMARY KEY"]
      ++ (if spec.autoIncrement.truthy && !dialect.autoIncrementFirst then [dialect.autoIncrement]
          else [])
  else []

/-- The tokens of a default value. -/
def defaultTokens (spec : ColumnSpec) : List Value :=
  if spec.defaultValue.isNull then []
  else [.text "DEFAULT", .text spec.defaultValue.sqlDefault]

/-- The tokens of the constraint of a column, in order. -/
def constraintTokens (dialect : Dialect) (spec : ColumnSpec) (emitPrimaryKey : Bool) : List Value :=
  (if spec.unsigned.truthy && dialect.allowsUnsigned then [.text "UNSIGNED"] else [])
    ++ dialect.keyTokens spec emitPrimaryKey
    ++ (if spec.notNull.truthy then [.text "NOT NULL"] else [])
    ++ (if spec.unique.truthy then [.text "UNIQUE"] else [])
    ++ (if spec.null.truthy && dialect.allowsNull then [.text "NULL"] else [])
    ++ defaultTokens spec

/-- The constraint of a column. -/
def constraint (dialect : Dialect) (spec : ColumnSpec) (emitPrimaryKey : Bool) : Attempt String :=
  Value.join " " (dialect.constraintTokens spec emitPrimaryKey)

/-- The definition of a column whose type has been named. -/
def joinFragments (dialect : Dialect) (name : Value) (type : String) (spec : ColumnSpec)
    (emitPrimaryKey : Bool) : Attempt String := do
  let length ← dialect.lengthClause spec (.text type)
  let constraint ← dialect.constraint spec emitPrimaryKey
  Value.join " " [dialect.quote name, .text type, .text length, .text constraint]

/-- The definition of a column. -/
def columnDefinition (dialect : Dialect) (name : Value) (spec : ColumnSpec)
    (emitPrimaryKey : Bool) : Noted String := do
  let type ←
    if dialect.autoIncrementIsType && spec.autoIncrement.truthy then pure ""
    else dialect.typeName spec
  dialect.joinFragments name type spec emitPrimaryKey

/-- Identifiers as the dialect writes them, with commas between them. -/
def quoteAll (dialect : Dialect) (separator : String) (identifiers : List Value) : Attempt String :=
  Value.join separator (identifiers.map dialect.quote)

theorem quote_of_bare {dialect : Dialect} (h : dialect.quoteMark.truthy = false)
    (identifier : Value) : dialect.quote identifier = identifier := by
  simp [quote, h]

end Dialect

end SchemaChange
