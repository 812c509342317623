/-
# SchemaChange.Text.Quoted — a text between quotes, as it is shown inside lists and maps

The quotes are single ones, unless the text holds a single quote and no double
one.  The chosen quote and the backslash are escaped, tab, line feed and carriage
return have short escapes, and every other character that is not printable is
written by its code point in hexadecimal with two, four or eight digits.
-/
import SchemaChange.Text.Printable

set_option autoImplicit false

namespace SchemaChange.Text

/-- A number in lower-case hexadecimal, padded with zeros to a width. -/
def hexPadded (width : Nat) (n : Nat) : List Char :=
  let digits := Nat.toDigits 16 n
  List.replicate (width - digits.length) '0' ++ digits

/-- A character that is not printable, written by its code point. -/
def escapeCode (c : Char) : List Char :=
  if c.toNat < 0x100 then '\\' :: 'x' :: hexPadded 2 c.toNat
  else if c.toNat < 0x10000 then '\\' :: 'u' :: hexPadded 4 c.toNat
  else '\\' :: 'U' :: hexPadded 8 c.toNat

/-- One character between quotes. -/
def quotedChar (quote : Char) (c : Char) : List Char :=
  if c = quote ∨ c = '\\' then ['\\', c]
  else if c = '\t' then ['\\', 't']
  else if c = '\n' then ['\\', 'n']
  else if c = '\r' then ['\\', 'r']
  else if isPrintable c then [c]
  else escapeCode c

/-- The quote that a text is put in. -/
def quoteFor (text : List Char) : Char :=
  if '\'' ∈ text ∧ '"' ∉ text then '"' else '\''

/-- A text between quotes. -/
def quoted (text : List Char) : List Char :=
  let quote := quoteFor text
  quote :: text.flatMap (quotedChar quote) ++ [quote]

theorem quoteFor_of_not_mem {text : List Char} (h : '\'' ∉ text) : quoteFor text = '\'' := by
  simp [quoteFor, h]

end SchemaChange.Text
