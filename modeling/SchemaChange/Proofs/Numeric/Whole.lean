/-
# SchemaChange.Proofs.Numeric.Whole — whole numbers through floating point

A whole number is written in decimal digits, read as a floating-point number, and cut to its
integer part.  On the way it is rounded to 53 significant bits (`nearestWhole`).

* `nearestWhole_of_le` — up to 2^53 the rounding changes nothing.
* `twoPow_log2_le_nearestWhole` — beyond, it does not get below the power of two under the number.
* `readBinary64?_digits` — the digits of a number, with blanks around them, are read as the
  number nearest to it, and `truncate?_ofRatio_whole` is its integer part.
-/
import SchemaChange.Numeric.Numeral
import SchemaChange.Proofs.Text.Decimal
import SchemaChange.Text.Case

set_option autoImplicit false

namespace SchemaChange

namespace Binary64

/-! ## Powers of two -/

theorem twoPow_add (a b : Nat) : twoPow (a + b) = twoPow a * twoPow b :=
  Nat.pow_add 2 a b

theorem twoPow_le_twoPow {a b : Nat} (le : a ≤ b) : twoPow a ≤ twoPow b :=
  Nat.pow_le_pow_right (by decide) le

theorem twoPow_log2_le {n : Nat} (ne : n ≠ 0) : twoPow n.log2 ≤ n :=
  Nat.log2_self_le ne

theorem log2_lt_of_lt {n k : Nat} (ne : n ≠ 0) (lt : n < twoPow k) : n.log2 < k :=
  (Nat.log2_lt ne).2 lt

theorem le_log2_of_le {n k : Nat} (ne : n ≠ 0) (le : twoPow k ≤ n) : k ≤ n.log2 :=
  (Nat.le_log2 ne).2 le

theorem log2_twoPow (k : Nat) : (twoPow k).log2 = k :=
  Nat.log2_two_pow

/-! ## Rounding -/

theorem roundHalfEven_mul {d : Nat} (pos : 0 < d) (n : Nat) : roundHalfEven (n * d) d = n := by
  simp [roundHalfEven, Nat.mul_div_cancel n pos, pos]

theorem floorLog2_whole {n : Nat} (ne : n ≠ 0) : floorLog2 n 1 = n.log2 := by
  have reached : twoPow n.log2 ≤ n := twoPow_log2_le ne
  have one : Nat.log2 1 = 0 := by decide
  simp [floorLog2, one, reached]

/-- The power of two of the last bit that is kept of a whole number. -/
def lastBit (n : Nat) : Int := (n.log2 : Int) - 52

/-- The whole number to which a whole number is rounded. -/
def nearestWhole (n : Nat) : Nat :=
  magnitude (scaled n 1 (lastBit n)) (lastBit n)

/-- A number keeps its magnitude when its last bit, which is zero, is dropped. -/
theorem magnitude_carry (coefficient : Nat) (exponent : Int) :
    magnitude coefficient (exponent + 1) = magnitude (coefficient * 2) exponent := by
  unfold magnitude
  by_cases whole : 0 ≤ exponent
  · have next : (exponent + 1).toNat = exponent.toNat + 1 := by omega
    rw [if_pos whole, if_pos (by omega), next, twoPow_succ, Nat.mul_assoc, Nat.mul_comm 2]
  · have last : (-exponent).toNat = (-(exponent + 1)).toNat + 1 := by omega
    rw [if_neg whole, last, twoPow_succ, Nat.mul_div_mul_right _ _ (by decide)]
    split
    · have none : (-(exponent + 1)).toNat = 0 := by omega
      have first : (exponent + 1).toNat = 0 := by omega
      rw [none, first]
      exact (Nat.mul_one coefficient).trans (Nat.div_one coefficient).symm
    · rfl

theorem truncate?_ofRounded {exponent : Int} (small : exponent < maxExponent) (negative : Bool)
    (coefficient : Nat) :
    (ofRounded negative coefficient exponent).truncate?
      = some (signed negative (magnitude coefficient exponent)) := by
  unfold ofRounded
  split
  · rename_i full
    rw [if_neg (by omega), full, truncate?, magnitude_carry, twoPow_succ 52]
  · rw [if_neg (by omega)]
    rfl

/-- The integer part of the number nearest to a whole number. -/
theorem truncate?_ofRatio_whole {n : Nat} (ne : n ≠ 0) (small : n < twoPow 1023)
    (negative : Bool) :
    (ofRatio negative n 1).truncate? = some (signed negative (nearestWhole n)) := by
  have bits := log2_lt_of_lt ne small
  have kept : max (floorLog2 n 1 - 52) minExponent = lastBit n := by
    rw [floorLog2_whole ne, lastBit, minExponent]
    omega
  have below : lastBit n < maxExponent := by
    rw [lastBit, maxExponent]
    omega
  simp only [ofRatio, if_neg ne, kept]
  rw [truncate?_ofRounded below, nearestWhole]

/-- A whole number whose last kept bit is a fraction is kept as it is. -/
theorem nearestWhole_of_lt {n : Nat} (lt : n.log2 < 52) : nearestWhole n = n := by
  have fraction : ¬ 0 ≤ lastBit n := by
    rw [lastBit]
    omega
  rw [nearestWhole, scaled, if_neg fraction, roundHalfEven_one, magnitude, if_neg fraction,
    Nat.mul_div_cancel _ (twoPow_pos _)]

/-- A whole number whose last kept bit is a whole number is rounded to a multiple of it. -/
theorem nearestWhole_of_le_log2 {n : Nat} (le : 52 ≤ n.log2) :
    nearestWhole n = roundHalfEven n (twoPow (n.log2 - 52)) * twoPow (n.log2 - 52) := by
  have whole : 0 ≤ lastBit n := by
    rw [lastBit]
    omega
  have bits : (lastBit n).toNat = n.log2 - 52 := by
    rw [lastBit]
    omega
  rw [nearestWhole, scaled, if_pos whole, magnitude, if_pos whole, bits, Nat.one_mul]

/-- **Up to 2^53 a whole number is kept as it is.** -/
theorem nearestWhole_of_le {n : Nat} (le : n ≤ twoPow 53) : nearestWhole n = n := by
  by_cases fraction : n.log2 < 52
  · exact nearestWhole_of_lt fraction
  have ne : n ≠ 0 := by
    rintro rfl
    exact fraction (by decide)
  rw [nearestWhole_of_le_log2 (by omega)]
  by_cases power : n = twoPow 53
  · rw [power, log2_twoPow, twoPow_add 52 1]
    exact congrArg (· * twoPow 1) (roundHalfEven_mul (twoPow_pos 1) (twoPow 52))
  · have last : n.log2 - 52 = 0 := by
      have := log2_lt_of_lt ne (by omega : n < twoPow 53)
      omega
    rw [last]
    exact (Nat.mul_one _).trans (roundHalfEven_one n)

/-- **A whole number is not rounded below the power of two under it.** -/
theorem twoPow_log2_le_nearestWhole {n : Nat} (ne : n ≠ 0) : twoPow n.log2 ≤ nearestWhole n := by
  by_cases fraction : n.log2 < 52
  · rw [nearestWhole_of_lt fraction]
    exact twoPow_log2_le ne
  have bits : n.log2 = 52 + (n.log2 - 52) := by omega
  have split : twoPow n.log2 = twoPow 52 * twoPow (n.log2 - 52) := by
    rw [← twoPow_add, ← bits]
  have quotient : twoPow 52 ≤ n / twoPow (n.log2 - 52) := by
    rw [Nat.le_div_iff_mul_le (twoPow_pos _), ← split]
    exact twoPow_log2_le ne
  rw [nearestWhole_of_le_log2 (by omega), split]
  exact Nat.mul_le_mul_right _ (Nat.le_trans quotient (le_roundHalfEven _ _))

end Binary64

/-! ## Reading digits -/

namespace Text

open SchemaChange.Uri (asciiNumber isAsciiDigit)

theorem isAsciiDigit_iff {c : Char} : isAsciiDigit c = true ↔ 48 ≤ c.toNat ∧ c.toNat ≤ 57 := by
  rw [isAsciiDigit_eq_isDigit, isDigit_iff]

theorem digitValue?_of_isAsciiDigit {c : Char} (digit : isAsciiDigit c = true) :
    digitValue? c = some (c.toNat - 48) := by
  have range := isAsciiDigit_iff.1 digit
  have first : (0x30 ≤ c.toNat && c.toNat ≤ 0x30 + 9) = true := by simp; omega
  simp only [digitValue?, digitZeros, List.find?_cons, first, Option.map_some]

theorem isDigit_of_isAsciiDigit {c : Char} (digit : isAsciiDigit c = true) : isDigit c = true := by
  rw [isDigit, digitValue?_of_isAsciiDigit digit]
  rfl

theorem isBlank_of_isAsciiDigit {c : Char} (digit : isAsciiDigit c = true) : isBlank c = false := by
  have range := isAsciiDigit_iff.1 digit
  simp [isBlank, blankRanges, Ranges.holds]
  omega

theorem digitsValue_digits (n : Nat) : digitsValue (digits n) = n := by
  have same (run : List Char) (ascii : ∀ c ∈ run, isAsciiDigit c = true) (start : Nat) :
      run.foldl (fun n c => n * 10 + (digitValue? c).getD 0) start
        = run.foldl (fun n c => n * 10 + (c.toNat - 48)) start := by
    induction run generalizing start with
    | nil => rfl
    | cons c run ih =>
        rw [List.foldl_cons, List.foldl_cons, digitValue?_of_isAsciiDigit (ascii c List.mem_cons_self)]
        exact ih (fun d member => ascii d (List.mem_cons_of_mem c member)) _
  calc digitsValue (digits n)
      = asciiNumber (digits n) := same _ (fun _ => isAsciiDigit_of_mem_digits) 0
    _ = n := asciiNumber_digits n

/-- What is dropped from the start of a text ends where the first character is kept. -/
theorem dropWhile_around {drop : Char → Bool} {front core : List Char}
    (dropped : ∀ c ∈ front, drop c = true) (ne : core ≠ []) (kept : ∀ c ∈ core, drop c = false)
    (rest : List Char) : (front ++ core ++ rest).dropWhile drop = core ++ rest := by
  obtain ⟨c, core, rfl⟩ := List.exists_cons_of_ne_nil ne
  rw [List.append_assoc, List.dropWhile_append_of_pos dropped, List.cons_append,
    List.dropWhile_cons_of_neg (by simp [kept c List.mem_cons_self])]

/-- Trimming uncovers what has only kept characters. -/
theorem trimBy_around {drop : Char → Bool} {front core back : List Char}
    (dropped : ∀ c ∈ front, drop c = true) (ne : core ≠ []) (kept : ∀ c ∈ core, drop c = false)
    (droppedBack : ∀ c ∈ back, drop c = true) : trimBy drop (front ++ core ++ back) = core := by
  have ne' : core.reverse ≠ [] := by simpa using ne
  have kept' : ∀ c ∈ core.reverse, drop c = false := by simpa using kept
  have droppedBack' : ∀ c ∈ back.reverse, drop c = true := by simpa using droppedBack
  have behind := dropWhile_around droppedBack' ne' kept' []
  rw [List.append_nil, List.append_nil] at behind
  rw [trimBy, dropWhile_around dropped ne kept, List.reverse_append, behind, List.reverse_reverse]

end Text

namespace Numeral

open SchemaChange.Text
open SchemaChange.Uri (isAsciiDigit)

theorem takeSign_of_ascii {text : List Char} (ascii : ∀ c ∈ text, isAsciiDigit c = true) :
    takeSign text = (false, text) := by
  unfold takeSign
  split
  · exact absurd (ascii '-' List.mem_cons_self) (by decide)
  · exact absurd (ascii '+' List.mem_cons_self) (by decide)
  · rfl

theorem takeDigits_of_ascii {text : List Char} (ascii : ∀ c ∈ text, isAsciiDigit c = true)
    (afterDigit : Bool) : takeDigits afterDigit text = (text, []) := by
  induction text generalizing afterDigit with
  | nil => rfl
  | cons c text ih =>
      have digit := ascii c List.mem_cons_self
      have rest := ih (fun d member => ascii d (List.mem_cons_of_mem c member)) true
      have noMark : c ≠ '_' := by
        rintro rfl
        exact absurd digit (by decide)
      rw [takeDigits.eq_3 afterDigit c text fun d _ same => absurd same noMark,
        if_pos (isDigit_of_isAsciiDigit digit), rest]

/-- The decimal numeral of a number without sign, point or exponent. -/
theorem readDecimal?_digits (negative : Bool) (n : Nat) :
    readDecimal? negative (digits n) = some (.ofDecimal negative n 0) := by
  have taken := takeDigits_of_ascii (fun _ => isAsciiDigit_of_mem_digits (n := n)) false
  have some : (digits n).isEmpty = false := by simpa using digits_ne_nil n
  simp [readDecimal?, taken, some, readExponent?, digitsValue_digits]

theorem length_digits_le_of_lt {n count : Nat} (pos : 0 < count) (small : n < Binary64.tenPow count) :
    (digits n).length ≤ count :=
  length_digits_le pos small

/-- A number of at most 310 digits is read as the number nearest to it. -/
theorem ofDecimal_whole {n : Nat} (short : (digits n).length ≤ 310) (negative : Bool) :
    Binary64.ofDecimal negative n 0 = .ofRatio negative n 1 := by
  rw [digits_eq] at short
  by_cases zero : n = 0
  · simp [Binary64.ofDecimal, Binary64.ofRatio, zero]
  · have notLong : ¬ 310 < ((Nat.toDigits 10 n).length : Int) + 0 := by omega
    have notTiny : ¬ ((Nat.toDigits 10 n).length : Int) + 0 < -330 := by omega
    have unscaled : n * Binary64.tenPow (0 : Int).toNat = n := Nat.mul_one n
    simp only [Binary64.ofDecimal, zero, notLong, notTiny, if_false, Int.le_refl, if_true, unscaled]

/-- **The digits of a number are read as the number nearest to it.** -/
theorem readBinary64?_digits {n : Nat} (short : (digits n).length ≤ 310) :
    readBinary64? (digits n) = some (.ofRatio false n 1) := by
  have ascii : ∀ c ∈ digits n, isAsciiDigit c = true := fun _ => isAsciiDigit_of_mem_digits
  have kept : ∀ c ∈ digits n, numeralBlank c = false := fun c member => by
    simp [numeralBlank, isBlank_of_isAsciiDigit (ascii c member)]
  have bare : trimBy numeralBlank ([] ++ digits n ++ []) = digits n :=
    trimBy_around (by simp) (digits_ne_nil n) kept (by simp)
  have lower : (digits n).map Char.toLower = digits n := by
    refine (List.map_congr_left fun c member => ?_).trans (List.map_id _)
    have range := isAsciiDigit_iff.1 (ascii c member)
    exact toLower_of_not_isUpper fun upper => by
      have := (isUpper_iff c).1 upper
      omega
  simp only [List.nil_append, List.append_nil] at bare
  simp only [readBinary64?, bare, takeSign_of_ascii ascii, lower]
  -- no word for an infinity or for no number is made of digits
  have wordless (c : Char) (letter : isAsciiDigit c = false) (rest : List Char) :
      digits n ≠ c :: rest := fun same =>
    not_mem_digits letter n (same ▸ List.mem_cons_self)
  split
  · exact absurd ‹_› (wordless 'i' (by decide) _)
  · exact absurd ‹_› (wordless 'i' (by decide) _)
  · exact absurd ‹_› (wordless 'n' (by decide) _)
  · rw [readDecimal?_digits, ofDecimal_whole short]

end Numeral

end SchemaChange
