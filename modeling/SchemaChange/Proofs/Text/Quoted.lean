/-
# SchemaChange.Proofs.Text.Quoted — what a quoted text shows

A text between quotes shows its characters, as they are or by escapes.

* `mem_quoted` — beside its own characters a quoted text has only quotes and those of escapes.
* `quoted_plain` — a text without anything to escape is shown as it is between single quotes.
-/
import SchemaChange.Proofs.Text.Decimal
import SchemaChange.Text.Quoted

set_option autoImplicit false

namespace SchemaChange.Text

/-- The digits of hexadecimal numbers. -/
def hexDigits : List Char :=
  "0123456789abcdef".toList

/-- Whether a character is a double quote, or one that escapes and numbers are written in. -/
def isEscapeChar (c : Char) : Bool :=
  c == '"' || c == '\\' || c ∈ "tnrxuU".toList || c ∈ hexDigits

/-- Whether a character is shown as it is between single quotes. -/
def isPlainlyQuoted (c : Char) : Bool :=
  isPrintable c && c != '\\' && c != '\''

theorem mem_hexDigits_of_mem_toDigits {base n : Nat} {c : Char} (base_gt : 1 < base)
    (base_le : base ≤ 16) (member : c ∈ Nat.toDigits base n) : c ∈ hexDigits := by
  have single : ∀ digit < 16, Nat.digitChar digit ∈ hexDigits := by decide
  induction n using Nat.strongRecOn with
  | _ n ih =>
      by_cases small : n < base
      · rw [Nat.toDigits_of_lt_base small, List.mem_singleton] at member
        exact member ▸ single n (by omega)
      · rw [Nat.toDigits_of_base_le base_gt (by omega), List.mem_append, List.mem_singleton] at member
        rcases member with before | rfl
        · exact ih (n / base) (Nat.div_lt_self (by omega) base_gt) before
        · have below := Nat.mod_lt n (by omega : base > 0)
          exact single _ (by omega)

theorem isEscapeChar_of_mem_digits {n : Nat} {c : Char} (member : c ∈ digits n) :
    isEscapeChar c = true := by
  rw [digits_eq] at member
  have digit := mem_hexDigits_of_mem_toDigits (by omega) (by omega) member
  simp [isEscapeChar, digit]

theorem isEscapeChar_of_mem_escapeCode {c d : Char} (member : d ∈ escapeCode c) :
    isEscapeChar d = true := by
  have padded : ∀ width, d ∈ hexPadded width c.toNat → d ∈ hexDigits := by
    intro width inside
    rw [hexPadded, List.mem_append, List.mem_replicate] at inside
    rcases inside with ⟨-, rfl⟩ | digit
    · decide
    · exact mem_hexDigits_of_mem_toDigits (by omega) (by omega) digit
  have marked : ∀ mark width, isEscapeChar mark = true →
      d ∈ '\\' :: mark :: hexPadded width c.toNat → isEscapeChar d = true := by
    intro mark width known inside
    rcases List.mem_cons.1 inside with rfl | inside
    · rfl
    · rcases List.mem_cons.1 inside with rfl | digit
      · exact known
      · simp [isEscapeChar, padded width digit]
  unfold escapeCode at member
  split at member
  · exact marked 'x' 2 (by decide) member
  · split at member
    · exact marked 'u' 4 (by decide) member
    · exact marked 'U' 8 (by decide) member

/-- A character is shown by itself or by an escape. -/
theorem mem_quotedChar {quote c d : Char} (member : d ∈ quotedChar quote c) :
    d = c ∨ isEscapeChar d = true := by
  unfold quotedChar at member
  have short : ∀ mark, isEscapeChar mark = true → d ∈ ['\\', mark] → isEscapeChar d = true := by
    intro mark known inside
    simp only [List.mem_cons, List.not_mem_nil, or_false] at inside
    rcases inside with rfl | rfl
    · rfl
    · exact known
  split at member
  · simp only [List.mem_cons, List.not_mem_nil, or_false] at member
    rcases member with rfl | rfl
    · exact .inr rfl
    · exact .inl rfl
  · split at member
    · exact .inr (short 't' (by decide) member)
    · split at member
      · exact .inr (short 'n' (by decide) member)
      · split at member
        · exact .inr (short 'r' (by decide) member)
        · split at member
          · exact .inl (List.mem_singleton.1 member)
          · exact .inr (isEscapeChar_of_mem_escapeCode member)

theorem quoteFor_cases (text : List Char) : quoteFor text = '\'' ∨ quoteFor text = '"' := by
  unfold quoteFor
  split
  · exact .inr rfl
  · exact .inl rfl

/-- **A quoted text has only its own characters, quotes, and those of escapes.** -/
theorem mem_quoted {text : List Char} {c : Char} (member : c ∈ quoted text) :
    c = '\'' ∨ isEscapeChar c = true ∨ c ∈ text := by
  have quote : c = quoteFor text → c = '\'' ∨ isEscapeChar c = true ∨ c ∈ text := by
    intro same
    rcases quoteFor_cases text with single | double
    · exact .inl (same.trans single)
    · exact .inr (.inl (same.trans double ▸ by decide))
  simp only [quoted, List.mem_append, List.mem_cons, List.not_mem_nil, or_false,
    List.mem_flatMap] at member
  rcases member with (same | ⟨own, inside, shown⟩) | same
  · exact quote same
  · rcases mem_quotedChar shown with rfl | escape
    · exact .inr (.inr inside)
    · exact .inr (.inl escape)
  · exact quote same

/-- **A text without anything to escape is shown as it is.** -/
theorem quoted_plain {text : List Char} (plain : text.all isPlainlyQuoted = true) :
    quoted text = '\'' :: text ++ ['\''] := by
  have each : ∀ c ∈ text, isPrintable c = true ∧ c ≠ '\\' ∧ c ≠ '\'' := by
    intro c member
    have allowed := List.all_eq_true.1 plain c member
    simp only [isPlainlyQuoted, Bool.and_eq_true, bne_iff_ne] at allowed
    exact ⟨allowed.1.1, allowed.1.2, allowed.2⟩
  have single : quoteFor text = '\'' := by
    apply quoteFor_of_not_mem
    intro member
    exact (each '\'' member).2.2 rfl
  have itself : ∀ c ∈ text, quotedChar '\'' c = [c] := by
    intro c member
    obtain ⟨printable, notBackslash, notQuote⟩ := each c member
    have visible : ∀ hidden, isPrintable hidden = false → c ≠ hidden := by
      rintro hidden unprintable rfl
      rw [printable] at unprintable
      cases unprintable
    rw [quotedChar, if_neg (by simp [notQuote, notBackslash]), if_neg (visible '\t' (by decide)),
      if_neg (visible '\n' (by decide)), if_neg (visible '\r' (by decide)), if_pos printable]
  have all : text.flatMap (quotedChar '\'') = text := by
    rw [List.flatMap_def, List.map_congr_left itself, ← List.flatMap_def]
    exact List.flatMap_singleton' text
  rw [quoted, single]
  show '\'' :: text.flatMap (quotedChar '\'') ++ ['\''] = _
  rw [all]

end SchemaChange.Text
