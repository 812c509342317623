/-
# SchemaChange.Proofs.Statement.Numbering — numbered parameters can be told from the text

PostgreSQL's templates have their question marks numbered from left to right, each written as a
dollar sign and a number.  A statement is read by its signs: a dollar sign with the longest run
of digits behind it is a parameter, and any other character stands for itself.

* `markParameters_eq` — a template is numbered sign by sign, wherever its question marks stand.
* `readSigns_text` — the signs are read back, if no character of the template can be taken for
  a part of a mark.
* `numbers_signs`, `unnumbered_signs` — the numbers run from one up, and without them the template
  is as it was.
* `numbered_parameters_are_reversible` — so no two templates of that kind give one statement.
-/
import SchemaChange.Proofs.Statement.Interpolation
import SchemaChange.Proofs.Text.Decimal

set_option autoImplicit false

namespace SchemaChange.Statement

open SchemaChange.Text
open SchemaChange.Uri (asciiNumber isAsciiDigit)

/-- A sign of a statement: a character, or a parameter by its number. -/
inductive Sign where
  | char (c : Char)
  | parameter (number : Nat)
  deriving DecidableEq, Repr

namespace Sign

/-- How a sign is written in a statement. -/
def text : Sign → List Char
  | .char c => [c]
  | .parameter number => '$' :: digits number

/-- How a sign is written in a template. -/
def unnumbered : Sign → Char
  | .char c => c
  | .parameter _ => '?'

/-- The number of a parameter. -/
def number? : Sign → Option Nat
  | .char _ => none
  | .parameter number => some number

end Sign

/-- The signs of a statement, in which a dollar sign with a run of digits, as long as possible,
is a parameter. -/
def readSigns : List Char → List Sign
  | [] => []
  | c :: rest =>
      if c = '$' ∧ rest.takeWhile isAsciiDigit ≠ [] then
        .parameter (asciiNumber (rest.takeWhile isAsciiDigit))
          :: readSigns (rest.dropWhile isAsciiDigit)
      else .char c :: readSigns rest
termination_by text => text.length
decreasing_by
  · have shorter := (List.dropWhile_suffix (l := rest) isAsciiDigit).length_le
    simp only [List.length_cons]
    omega
  · simp

/-- The signs that a template stands for: the character at each place, or, where it is a question
mark, the parameter whose number counts the question marks before it. -/
def signs (first : Nat) (template : List Char) : List Sign :=
  template.mapIdx fun place c =>
    if c = '?' then .parameter (first + parameterCount (template.take place)) else .char c

theorem signs_nil (first : Nat) : signs first [] = [] := rfl

theorem signs_mark (first : Nat) (template : List Char) :
    signs first ('?' :: template) = .parameter first :: signs (first + 1) template := by
  have none : parameterCount [] = 0 := rfl
  simp only [signs, List.mapIdx_cons, List.take_zero, List.take_succ_cons, parameterCount_cons,
    if_true, none, Nat.add_zero]
  congr 2
  funext place c
  split
  · congr 1
    omega
  · rfl

theorem signs_cons (first : Nat) {c : Char} (plain : c ≠ '?') (template : List Char) :
    signs first (c :: template) = .char c :: signs first template := by
  simp only [signs, List.mapIdx_cons, List.take_succ_cons, parameterCount_cons, if_neg plain,
    Nat.add_zero]

/-- **A template is numbered sign by sign.** -/
theorem markParameters_eq (first : Nat) (template : List Char) :
    markParameters .numbered first template = (signs first template).flatMap Sign.text := by
  induction template generalizing first with
  | nil => rfl
  | cons c template ih =>
      by_cases mark : c = '?'
      · subst mark
        have written : (PlaceholderStyle.numbered.mark (toString first)).toList
            = '$' :: digits first := by
          simp [PlaceholderStyle.mark, digits]
        rw [markParameters, if_pos rfl, ih, signs_mark, List.flatMap_cons, written]
        rfl
      · rw [markParameters, if_neg mark, ih, signs_cons first mark, List.flatMap_cons]
        rfl

/-- No question mark of a template is left in its statement. -/
theorem not_mem_text_signs (first : Nat) (template : List Char) :
    '?' ∉ (signs first template).flatMap Sign.text := by
  induction template generalizing first with
  | nil => simp [signs_nil]
  | cons c template ih =>
      by_cases mark : c = '?'
      · subst mark
        have noDigit : '?' ∉ digits first := by
          intro member
          have digit := isAsciiDigit_of_mem_digits member
          revert digit
          decide
        simp [signs_mark, Sign.text, noDigit, ih]
      · simp [signs_cons first mark, Sign.text, Ne.symm mark, ih]

/-! ## Reading the signs back -/

/-- No character of a template can be taken for a part of a mark: it has no dollar signs, and no
digits right behind its question marks. -/
structure Markable (template : List Char) : Prop where
  noDollar : '$' ∉ template
  noDigit : ∀ c, ['?', c] <:+: template → isAsciiDigit c = false

theorem markable_nil : Markable [] where
  noDollar := List.not_mem_nil
  noDigit := by
    rintro c ⟨before, after, whole⟩
    simp at whole

/-- A template is markable if its rest is, and it neither starts with a dollar sign nor with a
question mark before a digit. -/
theorem markable_cons (c : Char) (template : List Char) :
    Markable (c :: template) ↔
      c ≠ '$' ∧ (c = '?' → template.head?.all (!isAsciiDigit ·) = true) ∧ Markable template := by
  constructor
  · intro markable
    refine ⟨?_, ?_, ?_⟩
    · rintro rfl
      exact markable.noDollar List.mem_cons_self
    · rintro rfl
      cases template with
      | nil => rfl
      | cons d rest =>
          have other := markable.noDigit d ⟨[], rest, rfl⟩
          rw [List.head?_cons, Option.all_some, other]
          rfl
    · refine ⟨?_, ?_⟩
      · intro member
        exact markable.noDollar (List.mem_cons_of_mem c member)
      · intro d inside
        exact markable.noDigit d (inside.trans (List.suffix_cons c template).isInfix)
  · rintro ⟨notDollar, behind, markable⟩
    refine ⟨?_, ?_⟩
    · rw [List.mem_cons, not_or]
      exact ⟨Ne.symm notDollar, markable.noDollar⟩
    · intro d inside
      rcases List.infix_cons_iff.1 inside with start | later
      · rw [List.cons_prefix_cons] at start
        obtain ⟨rfl, rest, rfl⟩ := start
        simpa using behind rfl
      · exact markable.noDigit d later

instance decidableMarkable : DecidablePred Markable
  | [] => isTrue markable_nil
  | c :: template =>
      have := decidableMarkable template
      decidable_of_iff _ (markable_cons c template).symm

/-- Behind a question mark of a template, its statement goes on with no digit. -/
theorem Markable.behind {template : List Char} (markable : Markable ('?' :: template))
    (first : Nat) :
    ((signs first template).flatMap Sign.text).takeWhile isAsciiDigit = [] ∧
      ((signs first template).flatMap Sign.text).dropWhile isAsciiDigit
        = (signs first template).flatMap Sign.text := by
  cases template with
  | nil => exact ⟨rfl, rfl⟩
  | cons c template =>
      by_cases mark : c = '?'
      · subst mark
        have dollar : isAsciiDigit '$' = false := by decide
        simp [signs_mark, Sign.text, dollar]
      · have other : isAsciiDigit c = false := by
          simpa using ((markable_cons _ _).1 markable).2.1 rfl
        simp [signs_cons first mark, Sign.text, other]

theorem readSigns_cons {c : Char} (plain : c ≠ '$') (rest : List Char) :
    readSigns (c :: rest) = .char c :: readSigns rest := by
  rw [readSigns, if_neg]
  rintro ⟨dollar, -⟩
  exact plain dollar

/-- A number behind a dollar sign is read as far as its digits go. -/
theorem readSigns_parameter (number : Nat) {rest : List Char}
    (ends : rest.takeWhile isAsciiDigit = [] ∧ rest.dropWhile isAsciiDigit = rest) :
    readSigns ('$' :: (digits number ++ rest)) = .parameter number :: readSigns rest := by
  have inside : ∀ c ∈ digits number, isAsciiDigit c = true := by
    intro c member
    exact isAsciiDigit_of_mem_digits member
  have run : (digits number ++ rest).takeWhile isAsciiDigit = digits number := by
    rw [List.takeWhile_append_of_pos inside, ends.1, List.append_nil]
  have behind : (digits number ++ rest).dropWhile isAsciiDigit = rest := by
    rw [List.dropWhile_append_of_pos inside, ends.2]
  rw [readSigns, run, behind, if_pos ⟨rfl, digits_ne_nil number⟩, asciiNumber_digits]

/-- **The signs of a markable template are read back from its statement.** -/
theorem readSigns_text {template : List Char} (markable : Markable template) (first : Nat) :
    readSigns ((signs first template).flatMap Sign.text) = signs first template := by
  induction template generalizing first with
  | nil => simp [signs_nil, readSigns]
  | cons c template ih =>
      obtain ⟨notDollar, -, rest⟩ := (markable_cons c template).1 markable
      by_cases mark : c = '?'
      · subst mark
        rw [signs_mark, List.flatMap_cons]
        show readSigns ('$' :: (digits first ++ _)) = _
        rw [readSigns_parameter first (markable.behind (first + 1)), ih rest]
      · rw [signs_cons first mark, List.flatMap_cons]
        show readSigns (c :: (signs first template).flatMap Sign.text) = _
        rw [readSigns_cons notDollar, ih rest]

/-- The numbers of the parameters run from the first one up. -/
theorem numbers_signs (first : Nat) (template : List Char) :
    (signs first template).filterMap Sign.number?
      = List.range' first (parameterCount template) := by
  induction template generalizing first with
  | nil => rfl
  | cons c template ih =>
      rw [parameterCount_cons]
      by_cases mark : c = '?'
      · subst mark
        have numbered : (Sign.parameter first).number? = some first := rfl
        rw [signs_mark, if_pos rfl, List.range'_succ, List.filterMap_cons_some numbered, ih]
      · have unnumbered : (Sign.char c).number? = none := rfl
        rw [signs_cons first mark, if_neg mark, List.filterMap_cons_none unnumbered, ih]
        rfl

/-- With question marks for the parameters the template is as it was. -/
theorem unnumbered_signs (first : Nat) (template : List Char) :
    (signs first template).map Sign.unnumbered = template := by
  induction template generalizing first with
  | nil => rfl
  | cons c template ih =>
      by_cases mark : c = '?'
      · subst mark
        rw [signs_mark, List.map_cons, ih]
        rfl
      · rw [signs_cons first mark, List.map_cons, ih]
        rfl

/-! ## What PostgreSQL's templates are prepared to -/

/-- A text with a double quote in the place of every bracket. -/
def quoteBrackets (text : List Char) : List Char :=
  text.map fun c => if c = '[' ∨ c = ']' then '"' else c

theorem stripBrackets_quote (text : List Char) : stripBrackets ['"'] text = quoteBrackets text := by
  have clean : Unbracketed ['"'] := by decide
  induction text with
  | nil => rfl
  | cons c text ih =>
      rw [stripBrackets_cons clean, ih, quoteBrackets, quoteBrackets, List.map_cons]
      split
      · rfl
      · rfl

/-- Brackets and the quotes in their place are no marks of parameters. -/
theorem parameterCount_quoteBrackets (text : List Char) :
    parameterCount (quoteBrackets text) = parameterCount text := by
  induction text with
  | nil => rfl
  | cons c text ih =>
      rw [quoteBrackets, List.map_cons, parameterCount_cons, parameterCount_cons, ← ih]
      by_cases bracket : c = '[' ∨ c = ']'
      · rw [if_pos bracket]
        rcases bracket with rfl | rfl
        · rfl
        · rfl
      · rw [if_neg bracket]
        rfl

/-- Brackets and the quotes in their place are no part of a mark. -/
theorem Markable.quoteBrackets {text : List Char} (markable : Markable text) :
    Markable (quoteBrackets text) where
  noDollar := by
    intro member
    obtain ⟨c, inside, same⟩ := List.mem_map.1 member
    split at same
    · exact absurd same (by decide)
    · subst same
      exact markable.noDollar inside
  noDigit := by
    rintro d ⟨before, after, whole⟩
    rw [List.append_assoc, Statement.quoteBrackets] at whole
    obtain ⟨front, rest, rfl, -, rest_eq⟩ := List.map_eq_append_iff.1 whole.symm
    obtain ⟨mark, rest, rfl, mark_eq, rest_eq⟩ := List.map_eq_cons_iff.1 rest_eq
    obtain ⟨c, rest, rfl, c_eq, -⟩ := List.map_eq_cons_iff.1 rest_eq
    split at mark_eq
    · exact absurd mark_eq (by decide)
    · subst mark_eq
      split at c_eq
      · subst c_eq
        rfl
      · subst c_eq
        exact markable.noDigit c ⟨front, rest, by simp⟩

/-- PostgreSQL's templates have their brackets quoted and, if there are parameters, their question
marks numbered. -/
theorem prepare_postgres {template : Value} {text : String} (isText : template.text? = some text)
    {params : Value} (given : params.truthy = true) :
    prepare Dialect.postgres template params =
      .ok (String.ofList ((signs 1 (quoteBrackets text.toList)).flatMap Sign.text)) := by
  have asText : template.asText = .ok text := by rw [Value.asText, isText]
  have bare : withoutBrackets Dialect.postgres template
      = .ok (String.ofList (quoteBrackets text.toList)) := by
    rw [← stripBrackets_quote, withoutBrackets, asText]
    rfl
  rw [prepare, bare, ← markParameters_eq]
  show (if params.truthy then _ else _) = _
  rw [if_pos given, String.toList_ofList]
  rfl

/-- **Numbered parameters are exact and reversible.**  A template with parameters is prepared to its
text with quotes for its brackets, in which every question mark has become the parameter of its
place, so none is left.  If no character of the template can be taken for a part of a mark, the
parameters that are read from the statement are those from one to the number of question marks, in
this order; with question marks in their place the text is as it was; and a template of that kind
with another text is prepared to another statement. -/
theorem numbered_parameters_are_reversible {template : Value} {text : String}
    (isText : template.text? = some text) {params : Value} (given : params.truthy = true) :
    ∃ sql, prepare Dialect.postgres template params = .ok sql ∧
      sql.toList = (signs 1 (quoteBrackets text.toList)).flatMap Sign.text ∧
      '?' ∉ sql.toList ∧
      (Markable text.toList →
        (readSigns sql.toList).filterMap Sign.number?
          = List.range' 1 (parameterCount text.toList) ∧
        (readSigns sql.toList).map Sign.unnumbered = quoteBrackets text.toList ∧
        ∀ (other : Value) (otherText : String) (otherParams : Value),
          other.text? = some otherText → otherParams.truthy = true → Markable otherText.toList →
          quoteBrackets otherText.toList ≠ quoteBrackets text.toList →
          prepare Dialect.postgres other otherParams ≠ .ok sql) := by
  have prepared := prepare_postgres isText given
  refine ⟨_, prepared, String.toList_ofList, ?_, ?_⟩
  · rw [String.toList_ofList]
    exact not_mem_text_signs 1 _
  · intro markable
    have read := readSigns_text markable.quoteBrackets 1
    rw [String.toList_ofList, read, numbers_signs, parameterCount_quoteBrackets, unnumbered_signs]
    refine ⟨rfl, rfl, ?_⟩
    intro other otherText otherParams alsoText alsoGiven alsoMarkable different same
    apply different
    rw [prepare_postgres alsoText alsoGiven] at same
    have texts := String.ofList_injective (Except.ok.inj same)
    have signsSame : signs 1 (quoteBrackets otherText.toList)
        = signs 1 (quoteBrackets text.toList) := by
      rw [← read, ← texts, readSigns_text alsoMarkable.quoteBrackets 1]
    rw [← unnumbered_signs 1 (quoteBrackets otherText.toList), signsSame, unnumbered_signs]

/-- An update of one row and one of two are prepared to statements that differ. -/
theorem numbered_parameters_are_reversible_updates :
    Value.text? (.text "update [t] set a = ? where b in (?)")
        = some "update [t] set a = ? where b in (?)" ∧
      (Value.list [.int 1, .int 2]).truthy = true ∧
      Markable "update [t] set a = ? where b in (?)".toList ∧
      Markable "update [t] set a = ? where b in (?, ?)".toList ∧
      ∃ sql, prepare Dialect.postgres (.text "update [t] set a = ? where b in (?)")
          (.list [.int 1, .int 2]) = .ok sql ∧
        sql.toList = "update \"t\" set a = $1 where b in ($2)".toList ∧
        (readSigns sql.toList).filterMap Sign.number? = [1, 2] ∧
        prepare Dialect.postgres (.text "update [t] set a = ? where b in (?, ?)")
          (.list [.int 1, .int 2, .int 3]) ≠ .ok sql := by
  have markable : Markable "update [t] set a = ? where b in (?)".toList := by decide
  have also : Markable "update [t] set a = ? where b in (?, ?)".toList := by decide
  refine ⟨rfl, rfl, markable, also, ?_⟩
  obtain ⟨sql, prepared, written, -, reversible⟩ := @numbered_parameters_are_reversible
    (.text "update [t] set a = ? where b in (?)") _ rfl (.list [.int 1, .int 2]) rfl
  obtain ⟨numbers, -, distinct⟩ := reversible markable
  have other := distinct (.text "update [t] set a = ? where b in (?, ?)") _
    (.list [.int 1, .int 2, .int 3]) rfl rfl also (by decide)
  refine ⟨sql, prepared, ?_, ?_, other⟩
  · rw [written]
    decide
  · rw [numbers]
    decide

end SchemaChange.Statement
