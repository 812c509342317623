/-
# SchemaChange.Timestamp — readings of the clock and their text

A reading of the clock is written by date and time to the second, every part but
the year with two digits.
-/

set_option autoImplicit false

namespace SchemaChange

/-- A reading of the clock. -/
structure Timestamp where
  year : Nat
  month : Nat
  day : Nat
  hour : Nat
  minute : Nat
  second : Nat
  microsecond : Nat
  deriving DecidableEq, Repr

namespace Timestamp

/-- A number with at least two digits. -/
def twoDigits (n : Nat) : List Char :=
  let digits := Nat.toDigits 10 n
  if digits.length < 2 then '0' :: digits else digits

/-- A reading of the clock to the second. -/
def chars (t : Timestamp) : List Char :=
  Nat.toDigits 10 t.year ++ '-' :: twoDigits t.month ++ '-' :: twoDigits t.day
    ++ ' ' :: twoDigits t.hour ++ ':' :: twoDigits t.minute ++ ':' :: twoDigits t.second

/-- The text of a reading of the clock. -/
def text (t : Timestamp) : String :=
  String.ofList t.chars

end Timestamp

end SchemaChange
