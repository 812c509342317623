/-
# SchemaChange.Numeric.Numeral — reading numbers from text

Both readers accept blanks around the numeral, a sign, digits of every script,
and single underscores between digits.  `readInt` reads an integer of at most
4300 digits; `readBinary64?` reads a decimal numeral with an optional fraction
and exponent, or a word for infinity or for what is no number, and rounds to the
nearest floating-point number.
-/
import SchemaChange.Numeric.Binary64
import SchemaChange.Text.Blank
import SchemaChange.Text.DecimalDigit

set_option autoImplicit false

namespace SchemaChange.Numeral

open SchemaChange.Text

/-- The most digits that an integer numeral may have. -/
def maxDigits : Nat := 4300

/-- Why a text is no integer numeral. -/
inductive Fault where
  | malformed
  | tooManyDigits (count : Nat)
  deriving DecidableEq, Repr

/-- A sign at the start, and the rest. -/
def takeSign : List Char → Bool × List Char
  | '-' :: rest => (true, rest)
  | '+' :: rest => (false, rest)
  | text => (false, text)

/-- The digits at the start of a text, where a single underscore may stand between two digits,
and the rest.  `afterDigit` tells whether a digit has just been read. -/
def takeDigits (afterDigit : Bool) : List Char → List Char × List Char
  | [] => ([], [])
  | '_' :: c :: rest =>
    if afterDigit && isDigit c then
      let taken := takeDigits true rest
      (c :: taken.1, taken.2)
    else ([], '_' :: c :: rest)
  | c :: rest =>
    if isDigit c then
      let taken := takeDigits true rest
      (c :: taken.1, taken.2)
    else ([], c :: rest)

/-- The value of a run of digits as an integer numeral. -/
def boundedValue (digits : List Char) : Except Fault Nat :=
  if maxDigits < digits.length then .error (.tooManyDigits digits.length)
  else .ok (digitsValue digits)

/-- Reads an integer. -/
def readInt (text : List Char) : Except Fault Int :=
  let (negative, unsigned) := takeSign (trimBy numeralBlank text)
  match takeDigits false unsigned with
  | ([], _) => .error .malformed
  | (digits, []) => (boundedValue digits).map (Binary64.signed negative)
  | _ => .error .malformed

/-- Reads an exponent with its mark; without a mark the exponent is zero. -/
def readExponent? : List Char → Option Int
  | [] => some 0
  | mark :: rest =>
    if mark = 'e' ∨ mark = 'E' then
      let (negative, unsigned) := takeSign rest
      match takeDigits false unsigned with
      | ([], _) => none
      | (digits, []) => some (Binary64.signed negative (digitsValue digits))
      | _ => none
    else none

/-- Reads a decimal numeral without a sign. -/
def readDecimal? (negative : Bool) (text : List Char) : Option Binary64 :=
  let (whole, rest) := takeDigits false text
  let (fraction, rest) := match rest with
    | '.' :: rest => takeDigits false rest
    | rest => ([], rest)
  if whole.isEmpty && fraction.isEmpty then none
  else (readExponent? rest).map fun power =>
    .ofDecimal negative (digitsValue (whole ++ fraction)) (power - fraction.length)

/-- Reads a floating-point number. -/
def readBinary64? (text : List Char) : Option Binary64 :=
  let (negative, unsigned) := takeSign (trimBy numeralBlank text)
  match unsigned.map Char.toLower with
  | ['i', 'n', 'f'] => some (.infinite negative)
  | ['i', 'n', 'f', 'i', 'n', 'i', 't', 'y'] => some (.infinite negative)
  | ['n', 'a', 'n'] => some .nan
  | _ => readDecimal? negative unsigned

end SchemaChange.Numeral
