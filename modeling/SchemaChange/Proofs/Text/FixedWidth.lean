/-
# SchemaChange.Proofs.Text.FixedWidth — numbers with a fixed number of digits

A number that is written with a fixed number of digits has zeros before it.  Texts that begin with
such numbers are in the order of the numbers, and texts that begin with the same number in the
order of what follows, so the first number in which two texts differ decides between them.

* `toDigits_eq_fixedDigits` — a number without zeros before it has as many digits as it needs.
* `fixedDigits_append_before_iff`, `fixedDigits_append_eq_iff` — order and equality, number by number.
-/
import SchemaChange.Numeric.Binary64

set_option autoImplicit false

namespace SchemaChange.Text

open SchemaChange.Binary64 (tenPow tenPow_succ)

/-- The last digits of a number, with zeros before them if it has fewer. -/
def fixedDigits : Nat → Nat → List Char
  | 0, _ => []
  | width + 1, n => fixedDigits width (n / 10) ++ [(n % 10).digitChar]

variable {width m n : Nat} {rest others : List Char}

@[simp] theorem length_fixedDigits (width n : Nat) : (fixedDigits width n).length = width := by
  induction width generalizing n with
  | zero => rfl
  | succ width ih => rw [fixedDigits, List.length_append, ih, List.length_singleton]

theorem div_ten_lt (small : n < tenPow (width + 1)) : n / 10 < tenPow width := by
  rw [tenPow_succ] at small
  omega

/-- A number is written with as many digits as it needs. -/
theorem toDigits_eq_fixedDigits (least : tenPow width ≤ n) (small : n < tenPow (width + 1)) :
    Nat.toDigits 10 n = fixedDigits (width + 1) n := by
  induction width generalizing n with
  | zero =>
      have digit : n < 10 := small
      rw [Nat.toDigits_of_lt_base digit, fixedDigits, fixedDigits, Nat.mod_eq_of_lt digit]
      rfl
  | succ width ih =>
      rw [tenPow_succ] at least
      have long : 10 ≤ n := by
        have := Binary64.tenPow_pos width
        omega
      rw [Nat.toDigits_of_base_le (by decide) long, fixedDigits,
        ih (by omega) (div_ten_lt small)]

/-! ## Equality -/

theorem digitChar_eq_iff (hm : m < 10) (hn : n < 10) : m.digitChar = n.digitChar ↔ m = n := by
  rw [← Char.toNat_inj, Nat.toNat_digitChar_of_lt_ten hm, Nat.toNat_digitChar_of_lt_ten hn]
  omega

theorem fixedDigits_eq_iff (hm : m < tenPow width) (hn : n < tenPow width) :
    fixedDigits width m = fixedDigits width n ↔ m = n := by
  induction width generalizing m n with
  | zero =>
      have zeros : m = 0 ∧ n = 0 := ⟨Nat.lt_one_iff.1 hm, Nat.lt_one_iff.1 hn⟩
      exact iff_of_true rfl (zeros.1.trans zeros.2.symm)
  | succ width ih =>
      have last := digitChar_eq_iff (Nat.mod_lt m (by decide : 0 < 10))
        (Nat.mod_lt n (by decide : 0 < 10))
      rw [fixedDigits, fixedDigits, List.append_eq_append_iff_of_size_eq_left (by simp),
        ih (div_ten_lt hm) (div_ten_lt hn), List.singleton_inj, last]
      omega

/-- Texts that begin with numbers are equal exactly if the numbers are and what follows is. -/
theorem fixedDigits_append_eq_iff (hm : m < tenPow width) (hn : n < tenPow width) :
    fixedDigits width m ++ rest = fixedDigits width n ++ others ↔ m = n ∧ rest = others := by
  rw [List.append_eq_append_iff_of_size_eq_left (by simp), fixedDigits_eq_iff hm hn]

/-! ## Order -/

/-- A text comes before another: where they first differ, it ends or has the lesser code point. -/
def Before : List Char → List Char → Prop :=
  List.Lex fun c d => c.toNat < d.toNat

theorem Before.irrefl (text : List Char) : ¬ Before text text :=
  List.lex_irrefl (fun c => Nat.lt_irrefl c.toNat) text

theorem cons_before_cons_iff {c d : Char} :
    Before (c :: rest) (d :: others) ↔ c.toNat < d.toNat ∨ c = d ∧ Before rest others :=
  List.cons_lex_cons_iff

/-- Of texts that begin with parts of one length, these parts decide, and after equal parts what
follows. -/
theorem append_before_append_iff {first second : List Char} (same : first.length = second.length) :
    Before (first ++ rest) (second ++ others) ↔
      Before first second ∨ first = second ∧ Before rest others := by
  induction first generalizing second with
  | nil =>
      obtain rfl := List.length_eq_zero_iff.1 same.symm
      simp [Before.irrefl]
  | cons c first ih =>
      obtain ⟨d, second, rfl⟩ := List.exists_cons_of_length_eq_add_one same.symm
      rw [List.cons_append, List.cons_append, cons_before_cons_iff, cons_before_cons_iff,
        ih (Nat.succ.inj same), List.cons.injEq, and_or_left, or_assoc, and_assoc]

theorem digit_before_digit_iff (hm : m < 10) (hn : n < 10) :
    Before [m.digitChar] [n.digitChar] ↔ m < n := by
  rw [cons_before_cons_iff, Nat.toNat_digitChar_of_lt_ten hm, Nat.toNat_digitChar_of_lt_ten hn]
  simp only [Before.irrefl, and_false, or_false]
  omega

theorem fixedDigits_before_iff (hm : m < tenPow width) (hn : n < tenPow width) :
    Before (fixedDigits width m) (fixedDigits width n) ↔ m < n := by
  induction width generalizing m n with
  | zero =>
      have zeros : m = 0 ∧ n = 0 := ⟨Nat.lt_one_iff.1 hm, Nat.lt_one_iff.1 hn⟩
      rw [zeros.1, zeros.2]
      exact iff_of_false (Before.irrefl _) (Nat.lt_irrefl 0)
  | succ width ih =>
      rw [fixedDigits, fixedDigits, append_before_append_iff (by simp),
        ih (div_ten_lt hm) (div_ten_lt hn), fixedDigits_eq_iff (div_ten_lt hm) (div_ten_lt hn),
        digit_before_digit_iff (Nat.mod_lt m (by decide)) (Nat.mod_lt n (by decide))]
      omega

/-- Texts that begin with numbers are in the order of the numbers, and behind equal numbers in the
order of what follows. -/
theorem fixedDigits_append_before_iff (hm : m < tenPow width) (hn : n < tenPow width) :
    Before (fixedDigits width m ++ rest) (fixedDigits width n ++ others) ↔
      m < n ∨ m = n ∧ Before rest others := by
  rw [append_before_append_iff (by simp), fixedDigits_before_iff hm hn, fixedDigits_eq_iff hm hn]

end SchemaChange.Text
