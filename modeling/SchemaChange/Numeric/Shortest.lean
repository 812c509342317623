/-
# SchemaChange.Numeric.Shortest — the fewest decimal digits that read back

A finite positive binary number lies between two neighbours on every grid of
decimal numbers with a given count of significant digits.  `shortest` takes the
coarsest grid, of one to seventeen digits, on which a neighbour rounds back to the
number, and of two such neighbours the nearer one.
-/
import SchemaChange.Numeric.Binary64

set_option autoImplicit false

namespace SchemaChange.Binary64

/-- A decimal number `digits · 10 ^ power`. -/
structure Decimal where
  digits : Nat
  power : Int
  deriving DecidableEq, Repr

/-- A binary number as a quotient of naturals. -/
def toRatio (coefficient : Nat) (exponent : Int) : Nat × Nat :=
  if 0 ≤ exponent then (coefficient * twoPow exponent.toNat, 1)
  else (coefficient, twoPow (-exponent).toNat)

/-- The power of ten of the first significant digit of a positive quotient of at least
`10 ^ -400`. -/
def leadingPower (num den : Nat) : Int :=
  ((Nat.toDigits 10 (num * tenPow 400 / den)).length : Int) - 401

/-- A quotient in units of a power of ten, as a quotient. -/
def inUnits (num den : Nat) (power : Int) : Nat × Nat :=
  if 0 ≤ power then (num, den * tenPow power.toNat) else (num * tenPow (-power).toNat, den)

/-- The neighbours of a quotient on a decimal grid, the nearer one first; of two equally near
ones the even one. -/
def neighbours (num den : Nat) (power : Int) : List Decimal :=
  let (n, d) := inUnits num den power
  let below := n / d
  if roundHalfEven n d = below then [⟨below, power⟩, ⟨below + 1, power⟩]
  else [⟨below + 1, power⟩, ⟨below, power⟩]

/-- Whether a decimal number rounds to the binary number. -/
def Decimal.readsBack (coefficient : Nat) (exponent : Int) (d : Decimal) : Bool :=
  ofDecimal false d.digits d.power == .finite false coefficient exponent

/-- The first neighbour that reads back on the grids of `17 - fuel + 1` to 17 digits. -/
def shortestFrom (coefficient : Nat) (exponent : Int) (num den : Nat) (lead : Int) :
    Nat → Option Decimal
  | 0 => none
  | fuel + 1 =>
    let candidates := neighbours num den (lead - (16 - fuel))
    match candidates.find? (Decimal.readsBack coefficient exponent) with
    | some d => some d
    | none => shortestFrom coefficient exponent num den lead fuel

/-- A decimal number of fewest digits that reads back as a positive binary number. -/
def shortest (coefficient : Nat) (exponent : Int) : Decimal :=
  let (num, den) := toRatio coefficient exponent
  let lead := leadingPower num den
  (shortestFrom coefficient exponent num den lead 17).getD ⟨num / den, 0⟩

end SchemaChange.Binary64
