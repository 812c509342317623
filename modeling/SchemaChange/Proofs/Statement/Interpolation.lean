/-
# SchemaChange.Proofs.Statement.Interpolation — filling values into a format

A client library that interpolates reads a statement as a format: `%%` stands for a
percent sign, `%s` for the next value, and no other percent sign is allowed
(`interpolate`).  A template is marked for such a library by doubling its percent signs
first and writing `%s` for its question marks then, so that a sign of the template and a
sign of a mark are never confused.

* `interpolate_markAll` — a marked template takes as many values as it has question marks,
  and becomes the template with the values in their place (`filled`).
* `interpolate_markAll_ne_stray`, `interpolate_markAll_eq_ok_iff` — so the only fault of a
  marked template is that there are more or fewer values.
* `prepare_mysql` — what MySQL's templates are prepared to.
-/
import SchemaChange.Proofs.Statement.Literals

set_option autoImplicit false

namespace SchemaChange.Statement

open SchemaChange.Text

/-- A part of a statement with its values in place: a character of the statement, or a value. -/
inductive Piece where
  | char (c : Char)
  | value (value : Value)

/-- The value in a part of a statement, if it is one. -/
def Piece.value? : Piece → Option Value
  | .char _ => none
  | .value given => some given

/-- Why values cannot be filled into a format. -/
inductive FormatFault where
  | strayPercent
  | missingValue
  | leftoverValues
  deriving DecidableEq, Repr

/-- Fills values into a format, in which `%%` stands for a percent sign and `%s` for the next
value. -/
def interpolate : List Char → List Value → Except FormatFault (List Piece)
  | [], [] => .ok []
  | [], _ :: _ => .error .leftoverValues
  | '%' :: '%' :: format, values => (interpolate format values).map (.char '%' :: ·)
  | '%' :: 's' :: format, value :: values => (interpolate format values).map (.value value :: ·)
  | '%' :: 's' :: _, [] => .error .missingValue
  | '%' :: _, _ => .error .strayPercent
  | c :: format, values => (interpolate format values).map (.char c :: ·)

/-- A template with values in the place of its question marks, from left to right. -/
def filled : List Char → List Value → List Piece
  | [], _ => []
  | '?' :: template, value :: values => .value value :: filled template values
  | c :: template, values => .char c :: filled template values

theorem interpolate_cons {c : Char} (plain : c ≠ '%') (format : List Char) (values : List Value) :
    interpolate (c :: format) values = (interpolate format values).map (.char c :: ·) := by
  rw [interpolate] <;> simp [plain]

/-- What stands before a format without percent signs stands before what it is filled to. -/
theorem interpolate_append {plain : List Char} (clean : '%' ∉ plain) (format : List Char)
    (values : List Value) :
    interpolate (plain ++ format) values
      = (interpolate format values).map (plain.map .char ++ ·) := by
  induction plain with
  | nil =>
      rw [List.nil_append]
      cases interpolate format values <;> rfl
  | cons c plain ih =>
      rw [List.mem_cons, not_or] at clean
      rw [List.cons_append, interpolate_cons (Ne.symm clean.1), ih clean.2]
      cases interpolate format values <;> rfl

theorem filled_cons {c : Char} (plain : c ≠ '?') (template : List Char) (values : List Value) :
    filled (c :: template) values = .char c :: filled template values := by
  rw [filled]
  simp [plain]

theorem parameterCount_cons (c : Char) (text : List Char) :
    parameterCount (c :: text) = parameterCount text + if c = '?' then 1 else 0 := by
  simp [parameterCount, List.count_cons]

/-- **A marked template takes as many values as it has question marks**, and becomes the template
with the values in their place. -/
theorem interpolate_markAll (text : List Char) (values : List Value) :
    interpolate (markAll .format text) values =
      if values.length < parameterCount text then .error .missingValue
      else if parameterCount text < values.length then .error .leftoverValues
      else .ok (filled text values) := by
  -- the marks do not show their index, so the induction is over every index to start from
  suffices marked : ∀ index, interpolate (markParameters .format index (doublePercents text)) values =
      if values.length < parameterCount text then .error .missingValue
      else if parameterCount text < values.length then .error .leftoverValues
      else .ok (filled text values) from marked 1
  induction text generalizing values with
  | nil =>
      intro index
      cases values <;> simp [doublePercents, replaceChar, markParameters, parameterCount,
        interpolate, filled]
  | cons c text ih =>
      intro index
      rw [parameterCount_cons]
      by_cases mark : c = '?'
      · subst mark
        have sent : markParameters .format index (doublePercents ('?' :: text))
            = '%' :: 's' :: markParameters .format (index + 1) (doublePercents text) := by
          simp [doublePercents, replaceChar, markParameters, PlaceholderStyle.mark]
        rw [sent, if_pos rfl]
        cases values with
        | nil => simp [interpolate]
        | cons value values =>
            rw [interpolate, ih, List.length_cons, filled]
            simp only [Nat.add_lt_add_iff_right]
            split
            · rfl
            · split <;> rfl
      · by_cases percent : c = '%'
        · subst percent
          have sent : markParameters .format index (doublePercents ('%' :: text))
              = '%' :: '%' :: markParameters .format index (doublePercents text) := rfl
          rw [sent, interpolate, ih, filled_cons mark, if_neg mark, Nat.add_zero]
          split
          · rfl
          · split <;> rfl
        · have sent : markParameters .format index (doublePercents (c :: text))
              = c :: markParameters .format index (doublePercents text) := by
            simp [doublePercents, replaceChar, markParameters, mark, percent]
          rw [sent, interpolate_cons percent, ih, filled_cons mark, if_neg mark, Nat.add_zero]
          split
          · rfl
          · split <;> rfl

variable {text : List Char} {values : List Value}

/-- A marked template has no percent sign that the format does not allow. -/
theorem interpolate_markAll_ne_stray :
    interpolate (markAll .format text) values ≠ .error .strayPercent := by
  rw [interpolate_markAll]
  split
  · exact fun impossible => by cases impossible
  · split <;> exact fun impossible => by cases impossible

/-- A marked template can be filled exactly if there are as many values as question marks. -/
theorem interpolate_markAll_eq_ok_iff {pieces : List Piece} :
    interpolate (markAll .format text) values = .ok pieces ↔
      values.length = parameterCount text ∧ pieces = filled text values := by
  rw [interpolate_markAll]
  constructor
  · intro done
    split at done
    · cases done
    · split at done
      · cases done
      · cases done
        exact ⟨by omega, rfl⟩
  · rintro ⟨same, rfl⟩
    rw [if_neg (by omega), if_neg (by omega)]

/-! ## What MySQL's templates are prepared to -/

/-- A text without its brackets. -/
def dropBrackets (text : List Char) : List Char :=
  text.filter fun c => c != '[' && c != ']'

theorem replaceChar_nil_eq_filter (old : Char) (text : List Char) :
    replaceChar old [] text = text.filter fun c => c != old := by
  induction text with
  | nil => rfl
  | cons c text ih =>
      unfold replaceChar at ih
      by_cases same : c = old <;> simp [replaceChar, same, ih]

theorem stripBrackets_nil (text : List Char) : stripBrackets [] text = dropBrackets text := by
  rw [stripBrackets, replaceChar_nil_eq_filter, replaceChar_nil_eq_filter, List.filter_filter,
    dropBrackets]
  congr 1
  funext c
  exact Bool.and_comm _ _

/-- The brackets of a template are no marks of its parameters. -/
theorem parameterCount_dropBrackets (text : List Char) :
    parameterCount (dropBrackets text) = parameterCount text :=
  List.count_filter (by decide)

/-- MySQL's templates lose their brackets, and are marked if there are parameters. -/
theorem prepare_mysql {template : Value} {text : String} (isText : template.text? = some text)
    (params : Value) :
    prepare Dialect.mysql template params =
      .ok (String.ofList (if params.truthy then markAll .format (dropBrackets text.toList)
        else dropBrackets text.toList)) := by
  have asText : template.asText = .ok text := by rw [Value.asText, isText]
  have bare : withoutBrackets Dialect.mysql template
      = .ok (String.ofList (dropBrackets text.toList)) := by
    rw [← stripBrackets_nil, withoutBrackets, asText]
    rfl
  rw [prepare, bare]
  show (if params.truthy then _ else _) = _
  split
  · rw [String.toList_ofList]
    rfl
  · rfl

end SchemaChange.Statement
