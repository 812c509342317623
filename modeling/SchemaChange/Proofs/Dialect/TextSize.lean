/-
# SchemaChange.Proofs.Dialect.TextSize — text and blob types by size

MySQL names a text or blob type by the length that is given for it.  A length of any shape is read
as an integer through a floating-point number, which is not exact beyond 2^53; but every limit
between two sizes is far below, so the size is that of the number that was written.

* `parseLength_written` — a number, or its digits with blanks around them, is read as the number
  nearest to it.
* `ofLength_nearestWhole` — and this has the size of the number itself.
* `lengthClause_sized` — a type that is named by size takes no length.
* `text_types_hold_their_length` — the size of every length, and the definition of every text and
  blob column.
-/
import SchemaChange.Proofs.Dialect.ColumnType
import SchemaChange.Proofs.Numeric.Whole

set_option autoImplicit false

namespace SchemaChange.Dialect

open SchemaChange.Binary64 (tenPow twoPow nearestWhole)
open SchemaChange.Text (digits isBlank)

/-! ## Lengths -/

/-- The values that give a number as a length: the integer, and its digits with blanks around
them. -/
inductive GivesLength (n : Nat) : Value → Prop
  | integer : GivesLength n (.int n)
  | text {text : String} {front back : List Char} (written : text.toList = front ++ digits n ++ back)
      (blankFront : ∀ c ∈ front, isBlank c = true) (blankBack : ∀ c ∈ back, isBlank c = true) :
      GivesLength n (.text text)

/-- The digits of a length are what is left when the blanks around it are trimmed. -/
theorem GivesLength.trimmed {n : Nat} {length : Value} (gives : GivesLength n length) :
    Text.trim length.display.toList = digits n := by
  have kept : ∀ c ∈ digits n, isBlank c = false := fun c member =>
    Text.isBlank_of_isAsciiDigit (Text.isAsciiDigit_of_mem_digits member)
  cases gives with
  | integer =>
      have shown : (Value.int n).display.toList = [] ++ digits n ++ [] := by
        rw [List.append_nil]
        rfl
      rw [shown]
      exact Text.trimBy_around (by simp) (Text.digits_ne_nil n) kept (by simp)
  | text written blankFront blankBack =>
      rw [Value.display_text, written]
      exact Text.trimBy_around blankFront (Text.digits_ne_nil n) kept blankBack

/-- A number below 10^300 has so few digits that it is read as a finite number. -/
theorem tenPow_300_lt : tenPow 300 < twoPow 1023 := by
  decide +kernel

/-- **A number that is given as a length is read as the whole number nearest to it.** -/
theorem parseLength_written {n : Nat} {length : Value} (pos : 0 < n) (small : n < tenPow 300)
    (gives : GivesLength n length) : parseLength length = nearestWhole n := by
  have ne : n ≠ 0 := by omega
  have short : (digits n).length ≤ 300 := Numeral.length_digits_le_of_lt (by decide) small
  have read : lengthOfText? length.display.toList = some (nearestWhole n : Int) := by
    rw [lengthOfText?, gives.trimmed, Numeral.readBinary64?_digits (by omega), Option.bind_some,
      Binary64.truncate?_ofRatio_whole ne (Nat.lt_trans small tenPow_300_lt)]
    rfl
  have kept : (nearestWhole n : Int) ≠ 0 := by
    have := Binary64.twoPow_log2_le_nearestWhole ne
    have := Binary64.twoPow_pos n.log2
    omega
  rw [parseLength, read]
  exact if_neg kept

/-! ## Sizes -/

namespace SizeTier

/-- The place of a size among all sizes, from the smallest. -/
def place (tier : SizeTier) : Nat := all.idxOf tier

theorem place_ofLength (length : Int) :
    (ofLength length).place
      = if length ≤ 256 then 0 else if length ≤ 65536 then 1 else if length ≤ 16777216 then 2
        else 3 := by
  unfold ofLength
  repeat' split
  all_goals rfl

theorem place_ofLength_le {a b : Int} (le : a ≤ b) : (ofLength a).place ≤ (ofLength b).place := by
  rw [place_ofLength, place_ofLength]
  repeat' split
  all_goals omega

end SizeTier

/-- **Rounding does not change the size of a number.** -/
theorem ofLength_nearestWhole {n : Nat} (pos : 0 < n) :
    SizeTier.ofLength (nearestWhole n) = SizeTier.ofLength n := by
  by_cases exact : n ≤ twoPow 53
  · rw [Binary64.nearestWhole_of_le exact]
  · -- both are beyond the last limit
    have ne : n ≠ 0 := by omega
    have bits : 53 ≤ n.log2 := Binary64.le_log2_of_le ne (by omega)
    have above : twoPow 53 ≤ nearestWhole n :=
      Nat.le_trans (Binary64.twoPow_le_twoPow bits) (Binary64.twoPow_log2_le_nearestWhole ne)
    have value : twoPow 53 = 9007199254740992 := by decide
    have long {m : Nat} (le : twoPow 53 ≤ m) : SizeTier.ofLength m = .long := by
      unfold SizeTier.ofLength
      rw [if_neg (by omega), if_neg (by omega), if_neg (by omega)]
    rw [long above, long (by omega)]

/-- The word of the size of a number. -/
theorem word_ofLength (n : Nat) :
    (SizeTier.ofLength n).word
      = if n ≤ 256 then "TINY" else if n ≤ 65536 then "" else if n ≤ 16777216 then "MEDIUM"
        else "LONG" := by
  unfold SizeTier.ofLength
  by_cases tiny : n ≤ 256
  · rw [if_pos (by omega), if_pos tiny]
    rfl
  · rw [if_neg (by omega), if_neg tiny]
    by_cases plain : n ≤ 65536
    · rw [if_pos (by omega), if_pos plain]
      rfl
    · rw [if_neg (by omega), if_neg plain]
      by_cases medium : n ≤ 16777216
      · rw [if_pos (by omega), if_pos medium]
        rfl
      · rw [if_neg (by omega), if_neg medium]
        rfl

/-! ## Columns -/

theorem commonName_sized {kind : ColumnKind} (sized : kind = .text ∨ kind = .blob) :
    kind.commonName = "TEXT" ∨ kind.commonName = "BLOB" := by
  rcases sized with rfl | rfl
  · exact .inl rfl
  · exact .inr rfl

theorem typeFragment_sized {kind : ColumnKind} (sized : kind = .text ∨ kind = .blob)
    {spec : ColumnSpec} (given : spec.type = .kind kind) :
    mysql.typeFragment spec = sizeTier kind.commonName spec.length := by
  rcases sized with rfl | rfl
  · simp [typeFragment, mappedType, mysql, given, ColumnKind.commonName]
  · simp [typeFragment, mappedType, mysql, given, ColumnKind.commonName]

/-- A type that is named by size takes no length. -/
theorem lengthClause_sized (spec : ColumnSpec) {type : String} (sized : type ∈ sizedTypes) :
    mysql.lengthClause spec (.text type) = .ok "" := by
  have named : (Value.text type).truthy = true := by
    have named : ∀ type ∈ sizedTypes, (Value.text type).truthy = true := by decide
    exact named type sized
  have unsized : mysql.unsizedTypes.any (Value.text type).sameKey = true :=
    List.any_eq_true.2 ⟨.text type, List.mem_map_of_mem sized, by simp [Value.sameKey]⟩
  simp [lengthClause, named, unsized, Value.isKey]

theorem sizeTier_mem (base : String) (length : Value) :
    sizeTier base length ∈ SizeTier.all.map fun tier => tier.word ++ base :=
  List.mem_map_of_mem (by cases SizeTier.ofLength (parseLength length) <;> decide)

/-- **Text and blob types hold their length.**  A number from 1 to 10^300, given as an integer or by
its digits with blanks around them, gets the type of the smallest size that holds it, a greater
number never a smaller one, and up to 2^53 it is read as it is.  Every value is read as a length
other than zero, and every text or blob column is defined with one of the four types of its base
and without a length. -/
theorem text_types_hold_their_length :
    (∀ (n : Nat) (length : Value), 0 < n → n < tenPow 300 → GivesLength n length →
      (∀ base, sizeTier base length =
        (if n ≤ 256 then "TINY" else if n ≤ 65536 then "" else if n ≤ 16777216 then "MEDIUM"
          else "LONG") ++ base) ∧
      (n ≤ twoPow 53 → parseLength length = n) ∧
      ∀ (m : Nat) (smaller : Value), 0 < m → m ≤ n → GivesLength m smaller →
        (SizeTier.ofLength (parseLength smaller)).place
          ≤ (SizeTier.ofLength (parseLength length)).place) ∧
    (∀ length, parseLength length ≠ 0) ∧
    ∀ (name : String) (spec : ColumnSpec) (kind : ColumnKind) (emitPrimaryKey : Bool),
      kind = .text ∨ kind = .blob → spec.type = .kind kind →
      sizeTier kind.commonName spec.length
        ∈ SizeTier.all.map (fun tier => tier.word ++ kind.commonName) ∧
      mysql.lengthClause spec (.text (sizeTier kind.commonName spec.length)) = .ok "" ∧
      ∃ constraint, mysql.constraint spec emitPrimaryKey = .ok constraint ∧
        (mysql.columnDefinition (.text name) spec emitPrimaryKey).result
          = .ok (" ".intercalate [name, sizeTier kind.commonName spec.length, "", constraint]) := by
  refine ⟨fun n length pos small gives => ?_, parseLength_ne_zero,
    fun name spec kind emitPrimaryKey sized given => ?_⟩
  · have read := parseLength_written pos small gives
    refine ⟨fun base => ?_, fun exact => ?_, fun m smaller posSmaller le givesSmaller => ?_⟩
    · rw [sizeTier, read, ofLength_nearestWhole pos, word_ofLength]
    · rw [read, Binary64.nearestWhole_of_le exact]
    · have readSmaller := parseLength_written posSmaller (Nat.lt_of_le_of_lt le small) givesSmaller
      rw [read, readSmaller, ofLength_nearestWhole pos, ofLength_nearestWhole posSmaller]
      exact SizeTier.place_ofLength_le (by omega)
  · have member := sizeTier_mem_sizedTypes (commonName_sized sized) spec.length
    obtain ⟨length, constraint, clause, listed, defined⟩ :=
      columnDefinition_result .mysql name spec emitPrimaryKey
    have fragment := typeFragment_sized sized given
    have quoteless : mysql.quoteMark.truthy = false := rfl
    have bare : Engine.identifier .mysql (.text name) = name := by
      rw [Engine.identifier, Engine.dialect, quote_of_bare quoteless, Value.display_text]
    have clauseEmpty := lengthClause_sized spec member
    rw [Engine.dialect, fragment] at clause defined
    obtain rfl : length = "" := by
      rw [clauseEmpty] at clause
      cases clause
      rfl
    rw [bare] at defined
    exact ⟨sizeTier_mem _ _, clauseEmpty, constraint, listed, defined⟩

/-- A column for a blob whose length is no number. -/
def unreadableBlob : ColumnSpec :=
  { ColumnSpec.ofType (.kind .blob) with length := .text "huge", notNull := .bool true }

theorem text_types_hold_their_length_spaced :
    sizeTier "TEXT" (.text " 16777217  ") = "LONGTEXT" ∧
      parseLength (.text " 16777217  ") = 16777217 ∧
      sizeTier "BLOB" (.int 16777216) = "MEDIUMBLOB" ∧
      sizeTier "TEXT" (.int (tenPow 299 : Nat)) = "LONGTEXT" ∧
      ∃ constraint, mysql.constraint unreadableBlob true = .ok constraint ∧
        (mysql.columnDefinition (.text "c") unreadableBlob true).result
          = .ok (" ".intercalate ["c", sizeTier "BLOB" unreadableBlob.length, "", constraint]) := by
  have spaced : GivesLength 16777217 (.text " 16777217  ") :=
    @GivesLength.text 16777217 _ [' '] [' ', ' '] (by decide) (List.all_eq_true.1 (by decide))
      (List.all_eq_true.1 (by decide))
  obtain ⟨numbers, -, columns⟩ := text_types_hold_their_length
  obtain ⟨long, exact, -⟩ := numbers 16777217 _ (by decide) (by decide +kernel) spaced
  obtain ⟨medium, -⟩ := numbers 16777216 _ (by decide) (by decide +kernel) .integer
  obtain ⟨vast, -⟩ := numbers (tenPow 299) _ (Binary64.tenPow_pos 299) (by decide +kernel) .integer
  obtain ⟨-, -, defined⟩ := columns "c" unreadableBlob .blob true (.inr rfl) rfl
  refine ⟨long "TEXT", exact (by decide), medium "BLOB", ?_, defined⟩
  rw [vast "TEXT"]
  decide +kernel

end SchemaChange.Dialect
