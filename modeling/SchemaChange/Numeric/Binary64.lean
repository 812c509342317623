/-
# SchemaChange.Numeric.Binary64 — exact binary floating-point numbers

A finite number is `± coefficient · 2 ^ exponent`.  Numbers are made by
`ofRatio`, which rounds a quotient of naturals to the nearest number with a
coefficient below `2 ^ 53` and an exponent of at least `-1074`, a tie going to
the even coefficient, and answers an infinity beyond the greatest one.  All of it
is arithmetic on naturals and integers.

`le_roundHalfEven` bounds the rounded quotient from below by the integer under it, and
`roundHalfEven_one` says that a whole number is not rounded.
-/

set_option autoImplicit false

namespace SchemaChange

/-- A binary floating-point number of 64 bits. -/
inductive Binary64 where
  | finite (negative : Bool) (coefficient : Nat) (exponent : Int)
  | infinite (negative : Bool)
  | nan
  deriving DecidableEq, Repr

namespace Binary64

/-- A power of two. -/
def twoPow (n : Nat) : Nat := Nat.pow 2 n

/-- A power of ten. -/
def tenPow (n : Nat) : Nat := Nat.pow 10 n

theorem twoPow_succ (n : Nat) : twoPow (n + 1) = twoPow n * 2 := rfl

theorem tenPow_succ (n : Nat) : tenPow (n + 1) = tenPow n * 10 := rfl

theorem twoPow_pos (n : Nat) : 0 < twoPow n := by
  induction n with
  | zero => exact Nat.one_pos
  | succ n ih => rw [twoPow_succ]; omega

theorem tenPow_pos (n : Nat) : 0 < tenPow n := by
  induction n with
  | zero => exact Nat.one_pos
  | succ n ih => rw [tenPow_succ]; omega

/-- The natural number nearest to a quotient, a tie going to the even one. -/
def roundHalfEven (num den : Nat) : Nat :=
  let quotient := num / den
  let twice := 2 * (num % den)
  if twice < den then quotient
  else if den < twice then quotient + 1
  else if quotient % 2 = 0 then quotient
  else quotient + 1

theorem le_roundHalfEven (num den : Nat) : num / den ≤ roundHalfEven num den := by
  simp only [roundHalfEven]
  repeat' split
  all_goals omega

theorem roundHalfEven_one (num : Nat) : roundHalfEven num 1 = num := by
  simp [roundHalfEven, Nat.mod_one]

/-- The greatest power of two, by its exponent, that is at most a positive quotient. -/
def floorLog2 (num den : Nat) : Int :=
  let guess : Int := (Nat.log2 num : Int) - Nat.log2 den
  let reached :=
    if 0 ≤ guess then den * twoPow guess.toNat ≤ num else den ≤ num * twoPow (-guess).toNat
  if reached then guess else guess - 1

/-- A quotient in units of a power of two, rounded to the nearest natural number. -/
def scaled (num den : Nat) (exponent : Int) : Nat :=
  if 0 ≤ exponent then roundHalfEven num (den * twoPow exponent.toNat)
  else roundHalfEven (num * twoPow (-exponent).toNat) den

/-- The least exponent of a finite number. -/
def minExponent : Int := -1074

/-- The greatest exponent of a finite number. -/
def maxExponent : Int := 971

/-- The number with a sign whose coefficient came out of rounding; the next power of two is
written with the next exponent. -/
def ofRounded (negative : Bool) (coefficient : Nat) (exponent : Int) : Binary64 :=
  if coefficient = twoPow 53 then
    if maxExponent < exponent + 1 then .infinite negative
    else .finite negative (twoPow 52) (exponent + 1)
  else if maxExponent < exponent then .infinite negative
  else .finite negative coefficient exponent

/-- The number nearest to `± num / den`. -/
def ofRatio (negative : Bool) (num den : Nat) : Binary64 :=
  if num = 0 then .finite negative 0 minExponent
  else
    let exponent := max (floorLog2 num den - 52) minExponent
    ofRounded negative (scaled num den exponent) exponent

/-- The number nearest to an integer. -/
def ofInt (n : Int) : Binary64 :=
  ofRatio (n < 0) n.natAbs 1

/-- The number nearest to `± digits · 10 ^ power`.  Beyond 310 digits before the point, or 330
zeros after it, the answer does not depend on the digits. -/
def ofDecimal (negative : Bool) (digits : Nat) (power : Int) : Binary64 :=
  if digits = 0 then .finite negative 0 minExponent
  else
    let magnitude : Int := (Nat.toDigits 10 digits).length + power
    if 310 < magnitude then .infinite negative
    else if magnitude < -330 then .finite negative 0 minExponent
    else if 0 ≤ power then ofRatio negative (digits * tenPow power.toNat) 1
    else ofRatio negative digits (tenPow (-power).toNat)

/-- Whether a number differs from zero; the one that is no number does. -/
def isNonzero : Binary64 → Bool
  | .finite _ coefficient _ => coefficient != 0
  | _ => true

/-- The greatest natural number that is at most the magnitude of a finite number. -/
def magnitude (coefficient : Nat) (exponent : Int) : Nat :=
  if 0 ≤ exponent then coefficient * twoPow exponent.toNat
  else coefficient / twoPow (-exponent).toNat

/-- An integer with a sign and a magnitude. -/
def signed (negative : Bool) (magnitude : Nat) : Int :=
  if negative then -(magnitude : Int) else magnitude

/-- The integer nearest to a finite number on the side of zero. -/
def truncate? : Binary64 → Option Int
  | .finite negative coefficient exponent => some (signed negative (magnitude coefficient exponent))
  | _ => none

/-- Whether a finite number is exactly an integer. -/
def isInteger (x : Binary64) (n : Int) : Bool :=
  match x with
  | .finite _ coefficient exponent =>
    x.truncate? == some n &&
      (0 ≤ exponent || coefficient % twoPow (-exponent).toNat == 0)
  | _ => false

/-- Equality of numbers: both zeros are equal, and what is no number equals nothing. -/
def sameNumber : Binary64 → Binary64 → Bool
  | .nan, _ => false
  | .finite _ 0 _, .finite _ 0 _ => true
  | x, y => x == y

end Binary64

end SchemaChange
