/-
# SchemaChange.Proofs.Text.Lowered — what may become small letters

Over all of Unicode, two characters have a small ASCII letter other than `k` for their lower-case
form: the letter and its capital.  `k` has a third one, the sign of the kelvin, and a capital with a
dot becomes an `i` only together with a second character.  So a text whose lower-case form is made
of these letters is ASCII, and its upper-case form is that of its lower-case form.

* `ascii_of_lowerChar` — the same of one character, from the table of the runs.
* `upper_eq_map_lower` — the upper-case form is made of the capitals of the lower-case form.
-/
import SchemaChange.Text.Case

set_option autoImplicit false

namespace SchemaChange.Text

/-- A small ASCII letter that only it and its capital have for their lower-case form. -/
def isOwnLetter (c : Char) : Bool :=
  c.isLower && c != 'k'

variable {c d : Char}

theorem toNat_of_isOwnLetter (own : isOwnLetter c = true) : 97 ≤ c.toNat ∧ c.toNat ≤ 122 := by
  rw [isOwnLetter, Bool.and_eq_true] at own
  exact (isLower_iff c).1 own.1

/-- No run takes a letter beyond ASCII to an ASCII letter, but for the sign of the kelvin. -/
theorem lowerRuns_beyond_ascii :
    ∀ run ∈ lowerRuns, 0x80 ≤ (run.first : Int) + run.shift ∨
      run.first = 0x212A ∧ run.last = 0x212A ∧ run.shift = -0x20BF := by
  decide +kernel

theorem ofNat_ne_of_isOwnLetter {code : Nat} (beyond : 0x80 ≤ code) (own : isOwnLetter d = true) :
    Char.ofNat code ≠ d := by
  have range := toNat_of_isOwnLetter own
  rintro rfl
  by_cases valid : code.isValidChar
  · have same : (Char.ofNat code).toNat = code := by
      rw [Char.ofNat, dif_pos valid]
      rfl
    omega
  · rw [Char.ofNat, dif_neg valid] at range
    exact absurd range (by decide)

/-- A letter beyond ASCII does not become such a letter. -/
theorem shiftCase_ne (beyond : ¬ c.toNat < 0x80) (own : isOwnLetter d = true) :
    shiftCase lowerRuns c ≠ d := by
  have range := toNat_of_isOwnLetter own
  rw [shiftCase]
  split
  · rename_i run found
    have covers := List.find?_some found
    simp only [CaseRun.covers, Bool.and_eq_true, decide_eq_true_eq] at covers
    rcases lowerRuns_beyond_ascii run (List.mem_of_find?_eq_some found) with far | ⟨first, last, shift⟩
    · exact ofNat_ne_of_isOwnLetter (by omega) own
    · have kelvin : c.toNat = 0x212A := by omega
      rw [kelvin, shift]
      rintro rfl
      exact absurd own (by decide)
  · rintro rfl
    omega

/-- What becomes such letters is an ASCII character. -/
theorem ascii_of_lowerChar (own : ∀ d ∈ lowerChar c, isOwnLetter d = true) : c.toNat < 0x80 := by
  by_cases ascii : c.toNat < 0x80
  · exact ascii
  · rw [lowerChar, if_neg ascii] at own
    split at own
    · exact absurd (own (Char.ofNat 0x307) (by simp)) (by decide)
    · exact absurd rfl (shiftCase_ne ascii (own _ List.mem_cons_self))

/-- The upper-case form of an ASCII character is the capital of its lower-case form. -/
theorem upperChar_eq_map_lowerChar (ascii : c.toNat < 0x80) :
    upperChar c = (lowerChar c).map Char.toUpper := by
  have each : ∀ code < 0x80,
      upperChar (Char.ofNat code) = (lowerChar (Char.ofNat code)).map Char.toUpper := by
    decide +kernel
  have here := each c.toNat ascii
  rwa [Char.ofNat_toNat] at here

/-- **The upper-case form of a text is made of the capitals of its lower-case form**, if that is
made of such letters. -/
theorem upper_eq_map_lower {text : List Char} (own : ∀ d ∈ lower text, isOwnLetter d = true) :
    upper text = (lower text).map Char.toUpper := by
  suffices same : ∀ casedBefore, (∀ d ∈ lowerFrom casedBefore text, isOwnLetter d = true) →
      upper text = (lowerFrom casedBefore text).map Char.toUpper from same false own
  clear own
  induction text with
  | nil => intro casedBefore _; rfl
  | cons c text ih =>
      intro casedBefore own
      rw [lowerFrom, List.forall_mem_append] at own
      obtain ⟨here, rest⟩ := own
      have ascii : c.toNat < 0x80 := by
        split at here
        · -- neither form of the sigma is ASCII
          split at here <;> exact absurd (here _ List.mem_cons_self) (by decide)
        · exact ascii_of_lowerChar here
      have notSigma : ¬ c.toNat = 0x3A3 := by omega
      rw [lowerFrom, if_neg notSigma, List.map_append, ← ih _ rest,
        ← upperChar_eq_map_lowerChar ascii]
      rfl

end SchemaChange.Text
