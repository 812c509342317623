/-
# SchemaChange.Text.Percent — percent-encoded texts

A percent sign with two hexadecimal digits stands for a byte.  `decode` reads the
ASCII stretches of a text as bytes in UTF-8, where ill-formed bytes are replaced,
and leaves other characters as they are; a percent sign without two digits stands
for itself.  `encode` writes every byte outside the unreserved characters in this
form.
-/
import SchemaChange.Text.Utf8

set_option autoImplicit false

namespace SchemaChange.Text.Percent

/-- The value of a hexadecimal digit. -/
def hexValue? (c : Char) : Option Nat :=
  if '0' ≤ c ∧ c ≤ '9' then some (c.toNat - 48)
  else if 'a' ≤ c ∧ c ≤ 'f' then some (c.toNat - 87)
  else if 'A' ≤ c ∧ c ≤ 'F' then some (c.toNat - 55)
  else none

/-- The byte that two hexadecimal digits write. -/
def hexByte? (high low : Char) : Option Nat :=
  match hexValue? high, hexValue? low with
  | some h, some l => some (h * 16 + l)
  | _, _ => none

/-- The bytes that a stretch of ASCII characters stands for. -/
def bytes : List Char → List Nat
  | '%' :: high :: low :: rest =>
    match hexByte? high low with
    | some byte => byte :: bytes rest
    | none => '%'.toNat :: bytes (high :: low :: rest)
  | c :: rest => c.toNat :: bytes rest
  | [] => []

/-- Reads the stretch collected so far, in reverse, when it ends. -/
def flush (stretch : List Char) : List Char :=
  Utf8.decode (bytes stretch.reverse)

/-- Reads a text after the collected part, in reverse, of the current ASCII stretch. -/
def decodeFrom (stretch : List Char) : List Char → List Char
  | [] => flush stretch
  | c :: rest =>
    if c.toNat < 0x80 then decodeFrom (c :: stretch) rest
    else flush stretch ++ c :: decodeFrom [] rest

/-- Reads a percent-encoded text. -/
def decode (text : List Char) : List Char :=
  decodeFrom [] text

/-- Reads a percent-encoded text in which a plus sign stands for a space. -/
def decodeForm (text : List Char) : List Char :=
  decode (text.map fun c => if c = '+' then ' ' else c)

/-- Whether a character is written as it is: ASCII letters, digits and `_ . - ~`. -/
def isUnreserved (c : Char) : Bool :=
  c.isAlphanum || c == '_' || c == '.' || c == '-' || c == '~'

/-- The upper-case hexadecimal digit of a number below sixteen. -/
def hexDigit (n : Nat) : Char :=
  if n < 10 then Char.ofNat (48 + n) else Char.ofNat (55 + n)

/-- The escape of one byte. -/
def escapeByte (byte : Nat) : List Char :=
  ['%', hexDigit (byte / 16), hexDigit (byte % 16)]

/-- Writes a text with every byte escaped that is no unreserved character. -/
def encode (text : List Char) : List Char :=
  text.flatMap fun c => if isUnreserved c then [c] else (Utf8.encodeChar c).flatMap escapeByte

theorem encode_append (a b : List Char) : encode (a ++ b) = encode a ++ encode b :=
  List.flatMap_append

end SchemaChange.Text.Percent
