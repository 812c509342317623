/-
# SchemaChange.Dialect.Placeholder — how the parameters of a statement are marked

Statement templates mark a parameter by a question mark; a database expects a
question mark, the number of the parameter after a dollar sign, or `%s`.
-/
import SchemaChange.Value.Display

set_option autoImplicit false

namespace SchemaChange

/-- A way to mark parameters. -/
inductive PlaceholderStyle where
  | question
  | numbered
  | format
  deriving DecidableEq, Repr

namespace PlaceholderStyle

/-- The name of a style in the options of a dialect. -/
def name : PlaceholderStyle → String
  | .question => "qmark"
  | .numbered => "numeric"
  | .format => "format"

/-- The style of a name. -/
def ofName? (name : String) : Option PlaceholderStyle :=
  [question, numbered, format].find? fun style => style.name == name

/-- The mark of the parameter with an index, which is written as a text. -/
def mark (style : PlaceholderStyle) (index : String) : String :=
  match style with
  | .question => "?"
  | .numbered => "$" ++ index
  | .format => "%s"

end PlaceholderStyle

end SchemaChange
