/-
# SchemaChange.Text.Case — upper and lower case of whole texts

Case mapping is over all of Unicode: a character may change into several (`ß`
becomes `SS`), and the lower-case form of a capital sigma is the final one
exactly when a letter with case stands before it and none follows
(`sigmaIsFinal`).  On ASCII letters the mappings are the usual ones, and an ASCII
text without capitals is its own lower-case form (`lower_eq_self`).
-/
import SchemaChange.Text.CaseTable
import SchemaChange.Text.Cased

set_option autoImplicit false

namespace SchemaChange.Text

/-- The image of a character under the first run that covers it; other characters stay. -/
def shiftCase (runs : List CaseRun) (c : Char) : Char :=
  match runs.find? fun run => run.covers c.toNat with
  | some run => Char.ofNat ((c.toNat : Int) + run.shift).toNat
  | none => c

/-- The upper-case form of one character. -/
def upperChar (c : Char) : List Char :=
  if c.toNat < 0x80 then [c.toUpper]
  else match upperExpansions.find? fun entry => entry.1 == c.toNat with
    | some entry => entry.2.map Char.ofNat
    | none => [shiftCase upperRuns c]

/-- The upper-case form of a text. -/
def upper (text : List Char) : List Char :=
  text.flatMap upperChar

/-- The lower-case form of a character that does not depend on its neighbours. -/
def lowerChar (c : Char) : List Char :=
  if c.toNat < 0x80 then [c.toLower]
  else if c.toNat = 0x130 then ['i', Char.ofNat 0x307]
  else [shiftCase lowerRuns c]

/-- Whether the next character that is not looked through is a letter with case. -/
def casedFollows : List Char → Bool
  | [] => false
  | c :: rest => if isCaseIgnorable c then casedFollows rest else isCased c

/-- Whether a capital sigma with these surroundings is the last letter of its word. -/
def sigmaIsFinal (casedBefore : Bool) (rest : List Char) : Bool :=
  casedBefore && !casedFollows rest

/-- The lower-case form of a text after which `casedBefore` tells whether a letter with case
stood last. -/
def lowerFrom (casedBefore : Bool) : List Char → List Char
  | [] => []
  | c :: rest =>
    let image :=
      if c.toNat = 0x3A3 then [if sigmaIsFinal casedBefore rest then 'ς' else 'σ'] else lowerChar c
    image ++ lowerFrom (if isCaseIgnorable c then casedBefore else isCased c) rest

/-- The lower-case form of a text. -/
def lower (text : List Char) : List Char :=
  lowerFrom false text

theorem upperChar_ne_nil (c : Char) : upperChar c ≠ [] := by
  have expansions : ∀ entry ∈ upperExpansions, entry.2 ≠ [] := by decide
  simp only [upperChar]
  split
  · exact List.cons_ne_nil _ _
  · split
    · rename_i entry found
      simpa using expansions entry (List.mem_of_find?_eq_some found)
    · exact List.cons_ne_nil _ _

theorem upper_ne_nil {text : List Char} (h : text ≠ []) : upper text ≠ [] := by
  obtain ⟨c, text, rfl⟩ := List.exists_cons_of_ne_nil h
  simp [upper, upperChar_ne_nil c]

theorem lowerChar_ascii {c : Char} (h : c.toNat < 0x80) : lowerChar c = [c.toLower] := by
  simp [lowerChar, h]

/-! ## ASCII letters and digits -/

theorem isUpper_iff (c : Char) : c.isUpper = true ↔ 65 ≤ c.toNat ∧ c.toNat ≤ 90 := by
  show decide (c.val ≥ 'A'.val ∧ c.val ≤ 'Z'.val) = true ↔ _
  rw [decide_eq_true_iff, ge_iff_le, UInt32.le_iff_toNat_le, UInt32.le_iff_toNat_le]
  rfl

theorem isLower_iff (c : Char) : c.isLower = true ↔ 97 ≤ c.toNat ∧ c.toNat ≤ 122 := by
  show (decide (c.val ≥ 'a'.val) && decide (c.val ≤ 'z'.val)) = true ↔ _
  rw [Bool.and_eq_true, decide_eq_true_iff, decide_eq_true_iff, ge_iff_le,
    UInt32.le_iff_toNat_le, UInt32.le_iff_toNat_le]
  rfl

theorem isDigit_iff (c : Char) : c.isDigit = true ↔ 48 ≤ c.toNat ∧ c.toNat ≤ 57 := by
  show (decide (c.val ≥ '0'.val) && decide (c.val ≤ '9'.val)) = true ↔ _
  rw [Bool.and_eq_true, decide_eq_true_iff, decide_eq_true_iff, ge_iff_le,
    UInt32.le_iff_toNat_le, UInt32.le_iff_toNat_le]
  rfl

theorem isAlpha_iff (c : Char) : c.isAlpha = true ↔ c.isUpper = true ∨ c.isLower = true := by
  show (c.isUpper || c.isLower) = true ↔ _
  rw [Bool.or_eq_true]

theorem isAlphanum_iff (c : Char) : c.isAlphanum = true ↔ c.isAlpha = true ∨ c.isDigit = true := by
  show (c.isAlpha || c.isDigit) = true ↔ _
  rw [Bool.or_eq_true]

theorem toLower_of_not_isUpper {c : Char} (other : ¬ c.isUpper = true) : c.toLower = c := by
  have outside : ¬ (c.val ≥ 'A'.val ∧ c.val ≤ 'Z'.val) := fun inside => other (decide_eq_true inside)
  exact dif_neg outside

/-- An ASCII text without capital letters is in lower case. -/
theorem lower_eq_self {text : List Char}
    (small : ∀ c ∈ text, c.toNat < 0x80 ∧ ¬ c.isUpper = true) : lower text = text := by
  suffices same : ∀ casedBefore, lowerFrom casedBefore text = text from same false
  induction text with
  | nil => intro casedBefore; rfl
  | cons c text ih =>
    intro casedBefore
    obtain ⟨ascii, other⟩ := small c List.mem_cons_self
    have notSigma : ¬ c.toNat = 0x3A3 := by omega
    rw [lowerFrom, if_neg notSigma, lowerChar_ascii ascii, toLower_of_not_isUpper other,
      ih fun other member => small other (List.mem_cons_of_mem _ member)]
    rfl

end SchemaChange.Text
