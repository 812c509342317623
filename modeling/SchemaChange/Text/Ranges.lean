/-
# SchemaChange.Text.Ranges — character classes as lists of code point ranges

A class of characters is written as the list of its maximal ranges of code
points, both ends included.  `Ranges.holds` decides membership in one of them.
-/

set_option autoImplicit false

namespace SchemaChange.Text

/-- Ranges of code points, each with its first and last member. -/
abbrev Ranges := List (Nat × Nat)

namespace Ranges

/-- Whether a code point lies in one of the ranges. -/
def holds (ranges : Ranges) (code : Nat) : Bool :=
  ranges.any fun range => range.1 ≤ code && code ≤ range.2

end Ranges

end SchemaChange.Text
