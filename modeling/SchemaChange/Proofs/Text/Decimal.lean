/-
# SchemaChange.Proofs.Text.Decimal — numbers in decimal digits

A number is written in ASCII digits, without zeros before it, and read digit by digit.

* `asciiNumber_digits` — the digits of a number are read back as the number.
* `isAsciiDigit_of_mem_digits`, `length_digits_le` — they are ASCII digits, and not more of them
  than the number needs.
-/
import SchemaChange.Uri.Address

set_option autoImplicit false

namespace SchemaChange.Text

open SchemaChange.Uri (asciiNumber isAsciiDigit)

/-- The decimal digits of a number. -/
def digits (n : Nat) : List Char :=
  (toString n).toList

theorem digits_eq (n : Nat) : digits n = Nat.toDigits 10 n := by
  rw [digits, Nat.toString_eq_repr, Nat.toList_repr]

theorem digits_ne_nil (n : Nat) : digits n ≠ [] := by
  rw [digits_eq]
  exact Nat.toDigits_ne_nil

theorem isAsciiDigit_eq_isDigit (c : Char) : isAsciiDigit c = c.isDigit := rfl

theorem isAsciiDigit_of_mem_digits {n : Nat} {c : Char} (member : c ∈ digits n) :
    isAsciiDigit c = true := by
  rw [digits_eq] at member
  rw [isAsciiDigit_eq_isDigit]
  exact Nat.isDigit_of_mem_toDigits (by decide) (by decide) member

theorem not_mem_digits {c : Char} (special : isAsciiDigit c = false) (n : Nat) : c ∉ digits n := by
  intro member
  rw [isAsciiDigit_of_mem_digits member] at special
  cases special

/-- **Digits are read back as the number they write.** -/
theorem asciiNumber_digits (n : Nat) : asciiNumber (digits n) = n := by
  have same : ∀ (run : List Char) (start : Nat),
      run.foldl (fun n c => n * 10 + (c.toNat - 48)) start = Nat.ofDigitChars 10 run start := by
    intro run
    induction run with
    | nil => intro start; rfl
    | cons c run ih =>
        intro start
        rw [List.foldl_cons, ih, Nat.mul_comm]
        rfl
  rw [asciiNumber, same, digits_eq]
  exact Nat.ofDigitChars_ten_toDigits

theorem digits_injective {a b : Nat} (same : digits a = digits b) : a = b := by
  rw [← asciiNumber_digits a, ← asciiNumber_digits b, same]

theorem length_digits_le {n count : Nat} (positive : 0 < count) (small : n < Nat.pow 10 count) :
    (digits n).length ≤ count := by
  rw [digits_eq]
  exact (Nat.length_toDigits_le_iff (by decide) positive).2 small

end SchemaChange.Text
