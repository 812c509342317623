/-
# SchemaChange.Dialect.Configured — the dialects of the engines, and dialects from options

Each engine has a dialect of its own.  `Dialect.ofOptions` makes a dialect from
options by name, where options that are not given have the values of the common
grammar: bare identifiers, question marks, and no keywords beyond it.
-/
import SchemaChange.Dialect.Basic
import SchemaChange.Dialect.Size

set_option autoImplicit false

namespace SchemaChange

namespace Dialect

/-- The dialect of the common grammar. -/
def common : Dialect where
  name := .text "generic"
  quoteMark := .text ""
  bracketMark := .text ""
  placeholders := .question
  autoIncrement := .text "AUTO_INCREMENT"
  autoIncrementFirst := false
  autoIncrementIsType := false
  allowsUnsigned := false
  allowsNull := false
  defaultTextLength := .null
  unsizedTypes := []
  ownType := fun _ => none

/-- PostgreSQL: identifiers in double quotes, numbered parameters, and columns that number
themselves by their type. -/
def postgres : Dialect where
  name := .text Engine.postgres.name
  quoteMark := .text "\""
  bracketMark := .text "\""
  placeholders := .numbered
  autoIncrement := .text "SERIAL"
  autoIncrementFirst := true
  autoIncrementIsType := true
  allowsUnsigned := false
  allowsNull := false
  defaultTextLength := .null
  unsizedTypes := [.text "BYTEA", .text "TEXT"]
  ownType := fun spec =>
    match spec.type with
    | .kind .string => some "VARCHAR"
    | .kind .dateTime => some "TIMESTAMP"
    | .kind .blob => some "BYTEA"
    | _ => none

/-- MySQL: bare identifiers, `%s` parameters, and text and blob types by size. -/
def mysql : Dialect where
  name := .text Engine.mysql.name
  quoteMark := .text ""
  bracketMark := .text ""
  placeholders := .format
  autoIncrement := .text "AUTO_INCREMENT"
  autoIncrementFirst := false
  autoIncrementIsType := false
  allowsUnsigned := true
  allowsNull := true
  defaultTextLength := .int 255
  unsizedTypes := sizedTypes.map .text
  ownType := fun spec =>
    match spec.type with
    | .kind .text => some (sizeTier "TEXT" spec.length)
    | .kind .blob => some (sizeTier "BLOB" spec.length)
    | .kind .dateTime => some "DATETIME"
    | .kind .boolean => some "TINYINT(1)"
    | _ => none

/-- SQLite: identifiers in double quotes and question marks. -/
def sqlite : Dialect where
  name := .text Engine.sqlite.name
  quoteMark := .text "\""
  bracketMark := .text "\""
  placeholders := .question
  autoIncrement := .text "AUTOINCREMENT"
  autoIncrementFirst := false
  autoIncrementIsType := false
  allowsUnsigned := false
  allowsNull := false
  defaultTextLength := .null
  unsizedTypes := []
  ownType := fun _ => none

/-- The names of the options of a dialect. -/
def optionNames : List String :=
  ["name", "quote_char", "bracket_quote", "placeholder_style", "auto_increment",
   "auto_increment_first", "supports_unsigned", "emits_null_marker", "default_varchar_length",
   "unsized_types"]

/-- The style that an option names. -/
def readStyle (option : Value) : Attempt PlaceholderStyle :=
  match option.text?.bind PlaceholderStyle.ofName? with
  | some style => .ok style
  | none => .error (.unknownPlaceholderStyle option.display)

/-- The members of an option that is a collection of map keys. -/
def readKeys (option : Value) : Attempt (List Value) := do
  let items ← option.items
  if items.all Value.isKey then .ok items else .misuse .wrongKind

/-- The dialect that options describe. -/
def ofOptions (options : Entries) : Attempt Dialect := do
  let known := optionNames.map Value.text
  if !(options.all fun option => known.any option.1.sameKey) then
    .misuse .wrongKind
  else
    let style ← readStyle (options.getD "placeholder_style" (.text "qmark"))
    let unsized ← readKeys (options.getD "unsized_types" (.list []))
    .ok {
      name := options.getD "name" common.name
      quoteMark := options.getD "quote_char" common.quoteMark
      bracketMark := options.getD "bracket_quote" common.bracketMark
      placeholders := style
      autoIncrement := options.getD "auto_increment" common.autoIncrement
      autoIncrementFirst := (options.getD "auto_increment_first" (.bool false)).truthy
      autoIncrementIsType := false
      allowsUnsigned := (options.getD "supports_unsigned" (.bool false)).truthy
      allowsNull := (options.getD "emits_null_marker" (.bool false)).truthy
      defaultTextLength := options.getD "default_varchar_length" .null
      unsizedTypes := unsized
      ownType := fun _ => none }

end Dialect

/-- The dialect of an engine. -/
def Engine.dialect : Engine → Dialect
  | .postgres => .postgres
  | .mysql => .mysql
  | .sqlite => .sqlite

theorem Engine.dialect_name (engine : Engine) : engine.dialect.name = .text engine.name := by
  cases engine <;> rfl

end SchemaChange
