/-
# SchemaChange.Dialect.Size — text and blob types by size

An engine with several text and blob types needs the smallest that holds a length.
`parseLength` reads a length of any shape as an integer, with 1000 for what is
missing, zero or no number; `sizeTier` finds the first tier whose limit it does not
exceed.  `parseLength_ne_zero` says that a length is never zero.
-/
import SchemaChange.Numeric.Numeral
import SchemaChange.Value.Display

set_option autoImplicit false

namespace SchemaChange.Dialect

/-- The length that stands for a missing one. -/
def defaultLength : Int := 1000

/-- The integer part of the number that a text writes. -/
def lengthOfText? (text : List Char) : Option Int :=
  (Numeral.readBinary64? (Text.trim text)).bind Binary64.truncate?

/-- Reads a length as an integer. -/
def parseLength (length : Value) : Int :=
  match lengthOfText? length.display.toList with
  | some n => if n = 0 then defaultLength else n
  | none => defaultLength

/-- The sizes of a text or blob type. -/
inductive SizeTier where
  | tiny
  | regular
  | medium
  | long
  deriving DecidableEq, Repr

namespace SizeTier

/-- The start of the name of a type of this size. -/
def word : SizeTier → String
  | .tiny => "TINY"
  | .regular => ""
  | .medium => "MEDIUM"
  | .long => "LONG"

/-- All sizes in increasing order. -/
def all : List SizeTier := [.tiny, .regular, .medium, .long]

/-- The smallest size that holds a length. -/
def ofLength (length : Int) : SizeTier :=
  if length ≤ 256 then .tiny
  else if length ≤ 65536 then .regular
  else if length ≤ 16777216 then .medium
  else .long

end SizeTier

/-- The variant of a text or blob type that holds a length. -/
def sizeTier (base : String) (length : Value) : String :=
  (SizeTier.ofLength (parseLength length)).word ++ base

/-- The names of all variants of the text and blob types. -/
def sizedTypes : List String :=
  ["TEXT", "BLOB"].flatMap fun base => SizeTier.all.map fun tier => tier.word ++ base

theorem parseLength_ne_zero (length : Value) : parseLength length ≠ 0 := by
  simp only [parseLength]
  split
  · split
    · decide
    · assumption
  · decide

theorem sizeTier_mem_sizedTypes {base : String} (h : base = "TEXT" ∨ base = "BLOB")
    (length : Value) : sizeTier base length ∈ sizedTypes := by
  simp only [sizeTier]
  rcases h with rfl | rfl <;> cases SizeTier.ofLength (parseLength length) <;> decide

end SchemaChange.Dialect
