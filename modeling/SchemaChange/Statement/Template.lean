/-
# SchemaChange.Statement.Template — statement templates and what is sent for them

A statement template puts identifiers in brackets and marks parameters by question
marks.  `prepare` replaces the brackets by the dialect's own quotes and, when there
are parameters, the marks by the dialect's placeholders.  A dialect whose
placeholders begin with a percent sign has every other percent sign doubled first.

`stripBrackets_of_not_mem` says that a template without brackets stays as it is.
-/
import SchemaChange.Dialect.Basic

set_option autoImplicit false

namespace SchemaChange.Statement

open SchemaChange.Text

/-- A text with its opening and then its closing brackets replaced. -/
def stripBrackets (replacement : List Char) (text : List Char) : List Char :=
  replaceChar ']' replacement (replaceChar '[' replacement text)

/-- A text whose question marks are replaced by placeholders, numbered from the given index. -/
def markParameters (style : PlaceholderStyle) (index : Nat) : List Char → List Char
  | [] => []
  | c :: rest =>
    if c = '?' then (style.mark (toString index)).toList ++ markParameters style (index + 1) rest
    else c :: markParameters style index rest

/-- A text with every percent sign written twice. -/
def doublePercents (text : List Char) : List Char :=
  replaceChar '%' ['%', '%'] text

/-- A text with its parameters marked in a style. -/
def markAll (style : PlaceholderStyle) (text : List Char) : List Char :=
  match style with
  | .question => text
  | .numbered => markParameters .numbered 1 text
  | .format => markParameters .format 1 (doublePercents text)

/-- A template with its brackets replaced; only texts have brackets, and only texts replace
them. -/
def withoutBrackets (dialect : Dialect) (template : Value) : Attempt String := do
  let text ← template.asText
  match dialect.bracketMark.text? with
  | some mark => .ok (String.ofList (stripBrackets mark.toList text.toList))
  | none => .misuse .wrongKind

/-- A value with its parameters marked in the style of a dialect. -/
def marked (dialect : Dialect) (template : Value) : Attempt Value :=
  match dialect.placeholders with
  | .question => .ok template
  | style => do
    let text ← template.asText
    .ok (.text (String.ofList (markAll style text.toList)))

/-- The statement that is sent for a template with parameters. -/
def prepare (dialect : Dialect) (template params : Value) : Attempt String := do
  let text ← withoutBrackets dialect template
  if params.truthy then .ok (String.ofList (markAll dialect.placeholders text.toList))
  else .ok text

/-- The number of parameters that a template marks. -/
def parameterCount (text : List Char) : Nat :=
  text.count '?'

theorem stripBrackets_of_not_mem {replacement text : List Char} (hOpen : '[' ∉ text)
    (hClose : ']' ∉ text) : stripBrackets replacement text = text := by
  rw [stripBrackets, replaceChar_of_not_mem hOpen, replaceChar_of_not_mem hClose]

end SchemaChange.Statement
