/-
# SchemaChange.Numeric.Notation — how a floating-point number is written

A number is written with the fewest digits that read back, and always with a
point or an exponent: positionally while the power of its first digit is from -4
to 15, else with an exponent of a sign and at least two digits.
-/
import SchemaChange.Numeric.Shortest

set_option autoImplicit false

namespace SchemaChange.Binary64

/-- The digits of a decimal number without zeros at its end, and the power of its first digit. -/
def significant (d : Decimal) : List Char × Int :=
  let digits := Nat.toDigits 10 d.digits
  let trimmed := (digits.reverse.dropWhile (· == '0')).reverse
  (trimmed, d.power + digits.length - 1)

/-- Digits around a point, the first digit having a power of ten. -/
def positional (digits : List Char) (lead : Int) : List Char :=
  if lead < 0 then '0' :: '.' :: List.replicate (-lead - 1).toNat '0' ++ digits
  else
    let whole := lead.toNat + 1
    if digits.length ≤ whole then
      digits ++ List.replicate (whole - digits.length) '0' ++ ['.', '0']
    else digits.take whole ++ '.' :: digits.drop whole

/-- Digits with an exponent. -/
def scientific (digits : List Char) (lead : Int) : List Char :=
  let mantissa := match digits with
    | first :: second :: rest => first :: '.' :: second :: rest
    | _ => digits
  let power := Nat.toDigits 10 lead.natAbs
  let padded := if power.length < 2 then '0' :: power else power
  mantissa ++ 'e' :: (if lead < 0 then '-' else '+') :: padded

/-- The text of a positive finite number. -/
def positiveText (coefficient : Nat) (exponent : Int) : List Char :=
  let (digits, lead) := significant (shortest coefficient exponent)
  if -4 ≤ lead ∧ lead < 16 then positional digits lead else scientific digits lead

/-- The text of a number. -/
def text : Binary64 → List Char
  | .nan => ['n', 'a', 'n']
  | .infinite negative => (if negative then ['-'] else []) ++ ['i', 'n', 'f']
  | .finite negative coefficient exponent =>
    (if negative then ['-'] else []) ++
      (if coefficient = 0 then ['0', '.', '0'] else positiveText coefficient exponent)

end SchemaChange.Binary64
