/-
# SchemaChange.Proofs.Timestamp.Order — times in the order of their texts

The text of a reading of the clock has the year in front and the second at the end, each part with
its own number of digits and a separator behind it.  So texts are compared part by part, in the order
in which the parts decide between two readings.

* `chars_eq` — the text of a legible reading, part by part.
* `chars_before_iff`, `chars_eq_iff` — of two readings the earlier has the text that comes before,
  and readings within one second have one text.
-/
import SchemaChange.Proofs.Text.FixedWidth
import SchemaChange.Timestamp

set_option autoImplicit false

namespace SchemaChange.Timestamp

open SchemaChange.Binary64 (tenPow)
open SchemaChange.Text

/-- The parts of a reading down to the second, the year first. -/
def parts (t : Timestamp) : List Nat :=
  [t.year, t.month, t.day, t.hour, t.minute, t.second]

/-- A reading is earlier than another by the first part in which they differ. -/
def Earlier (t u : Timestamp) : Prop :=
  List.Lex (· < ·) t.parts u.parts

/-- The year has four digits, and the parts of the date and the time have at most two, as they do on
every clock. -/
structure Legible (t : Timestamp) : Prop where
  year_least : 1000 ≤ t.year
  year : t.year ≤ 9999
  month : t.month ≤ 99
  day : t.day ≤ 99
  hour : t.hour ≤ 99
  minute : t.minute ≤ 99
  second : t.second ≤ 99

variable {t u : Timestamp}

theorem earlier_iff :
    t.Earlier u ↔ t.year < u.year ∨ t.year = u.year ∧ (t.month < u.month ∨ t.month = u.month ∧
      (t.day < u.day ∨ t.day = u.day ∧ (t.hour < u.hour ∨ t.hour = u.hour ∧
        (t.minute < u.minute ∨ t.minute = u.minute ∧ t.second < u.second)))) := by
  simp only [Earlier, parts, List.cons_lex_cons_iff, List.not_lex_nil, and_false, or_false]

/-! ## The text of a reading -/

theorem lt_tenPow_two {n : Nat} (small : n ≤ 99) : n < tenPow 2 := Nat.lt_succ_of_le small

theorem lt_tenPow_four {n : Nat} (small : n ≤ 9999) : n < tenPow 4 := Nat.lt_succ_of_le small

theorem twoDigits_eq {n : Nat} (small : n ≤ 99) : twoDigits n = fixedDigits 2 n := by
  by_cases one : n < 10
  · have head : n / 10 = 0 := Nat.div_eq_of_lt one
    have last : n % 10 = n := Nat.mod_eq_of_lt one
    simp [twoDigits, Nat.toDigits_of_lt_base one, fixedDigits, head, last]
  · have digits : Nat.toDigits 10 n = fixedDigits 2 n :=
      toDigits_eq_fixedDigits (Nat.le_of_not_lt one) (lt_tenPow_two small)
    simp [twoDigits, digits]

/-- A legible reading is written part by part. -/
theorem Legible.chars_eq (legible : t.Legible) :
    t.chars = fixedDigits 4 t.year ++ '-' :: (fixedDigits 2 t.month ++ '-' ::
      (fixedDigits 2 t.day ++ ' ' :: (fixedDigits 2 t.hour ++ ':' ::
        (fixedDigits 2 t.minute ++ ':' :: fixedDigits 2 t.second)))) := by
  have year : Nat.toDigits 10 t.year = fixedDigits 4 t.year :=
    toDigits_eq_fixedDigits legible.year_least (lt_tenPow_four legible.year)
  rw [chars, year, twoDigits_eq legible.month, twoDigits_eq legible.day, twoDigits_eq legible.hour,
    twoDigits_eq legible.minute, twoDigits_eq legible.second]
  simp only [List.append_assoc, List.cons_append]

/-! ## Two readings -/

/-- Behind two numbers of one width, a separator makes no difference. -/
theorem part_before_part_iff {width m n : Nat} {c : Char} {rest others : List Char}
    (hm : m < tenPow width) (hn : n < tenPow width) :
    Before (fixedDigits width m ++ c :: rest) (fixedDigits width n ++ c :: others) ↔
      m < n ∨ m = n ∧ Before rest others := by
  rw [fixedDigits_append_before_iff hm hn, cons_before_cons_iff]
  simp

/-- **The earlier of two legible readings has the text that comes before.** -/
theorem Legible.chars_before_iff (ht : t.Legible) (hu : u.Legible) :
    Before t.chars u.chars ↔ t.Earlier u := by
  rw [ht.chars_eq, hu.chars_eq,
    part_before_part_iff (lt_tenPow_four ht.year) (lt_tenPow_four hu.year),
    part_before_part_iff (lt_tenPow_two ht.month) (lt_tenPow_two hu.month),
    part_before_part_iff (lt_tenPow_two ht.day) (lt_tenPow_two hu.day),
    part_before_part_iff (lt_tenPow_two ht.hour) (lt_tenPow_two hu.hour),
    part_before_part_iff (lt_tenPow_two ht.minute) (lt_tenPow_two hu.minute),
    fixedDigits_before_iff (lt_tenPow_two ht.second) (lt_tenPow_two hu.second), earlier_iff]

/-- Legible readings have one text exactly if they fall into one second. -/
theorem Legible.chars_eq_iff (ht : t.Legible) (hu : u.Legible) :
    t.chars = u.chars ↔ t.parts = u.parts := by
  rw [ht.chars_eq, hu.chars_eq,
    fixedDigits_append_eq_iff (lt_tenPow_four ht.year) (lt_tenPow_four hu.year), List.cons_inj_right,
    fixedDigits_append_eq_iff (lt_tenPow_two ht.month) (lt_tenPow_two hu.month), List.cons_inj_right,
    fixedDigits_append_eq_iff (lt_tenPow_two ht.day) (lt_tenPow_two hu.day), List.cons_inj_right,
    fixedDigits_append_eq_iff (lt_tenPow_two ht.hour) (lt_tenPow_two hu.hour), List.cons_inj_right,
    fixedDigits_append_eq_iff (lt_tenPow_two ht.minute) (lt_tenPow_two hu.minute), List.cons_inj_right,
    fixedDigits_eq_iff (lt_tenPow_two ht.second) (lt_tenPow_two hu.second)]
  simp [parts]

end SchemaChange.Timestamp
