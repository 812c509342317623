/-
# SchemaChange.Uri.Query — the fields of a query

The query of a URI lists fields with an ampersand between them, each a name and a
value with an equals sign between; a field without a value does not count.  Names
and values are percent-encoded, with plus signs for spaces.
-/
import SchemaChange.Text.Percent
import SchemaChange.Text.Search

set_option autoImplicit false

namespace SchemaChange.Uri

open SchemaChange.Text

/-- A field of a query. -/
structure Field where
  name : String
  value : String
  deriving DecidableEq, Repr

/-- Reads a field; without a value there is none. -/
def Field.read? (text : List Char) : Option Field :=
  match cut? '=' text with
  | some (name, c :: value) =>
    some ⟨String.ofList (Percent.decodeForm name), String.ofList (Percent.decodeForm (c :: value))⟩
  | _ => none

/-- The fields of a query, in order. -/
def fields (query : List Char) : List Field :=
  (splitAll '&' query).filterMap Field.read?

/-- The fields whose names have not come before. -/
def firstFields (all : List Field) : List Field :=
  all.foldl (fun kept field =>
    if kept.any fun other => other.name == field.name then kept else kept ++ [field]) []

end SchemaChange.Uri
