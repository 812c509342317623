/-
# SchemaChange.Proofs.Statement.Inlined — reading back the values in an insertion

The values of an insertion stand in its text.  `Writes` is the grammar of such a literal: one of
three words, an integer with or without a sign, or a text between single quotes in which two
quotes stand for one.  `WritesAll` is the grammar of a list of literals with commas between them,
and `readLiterals?` reads it, piece by piece between the commas outside quotes.

* `readLiterals?_eq_some_iff` — reading accepts what the grammar allows and nothing else, so a
  text is the list of one sequence of literals at most.
* `writesAll_literals` — what is inlined is allowed by the grammar.
* `inserted_values_are_read_back` — so the values of an insertion are read back from its text.
-/
import Mathlib.Data.List.Forall2
import SchemaChange.Proofs.Dialect.ColumnType
import SchemaChange.Proofs.Statement.Literals
import SchemaChange.Proofs.Text.Decimal

set_option autoImplicit false

namespace SchemaChange.Statement

open SchemaChange.Text
open SchemaChange.Uri (asciiNumber isAsciiDigit)

/-- What a literal stands for. -/
inductive Literal where
  | null
  | bool (value : Bool)
  | int (value : Int)
  | text (value : String)
  deriving DecidableEq, Repr

namespace Literal

/-- The value that a literal stands for. -/
def toValue : Literal → Value
  | .null => .null
  | .bool b => .bool b
  | .int n => .int n
  | .text s => .text s

/-- How a literal is inlined into a statement. -/
def inlined (literal : Literal) : List Char :=
  literal.toValue.sqlLiteral.toList

end Literal

/-! ## The grammar -/

/-- A run of ASCII digits. -/
def IsNumeral (digits : List Char) : Prop :=
  digits ≠ [] ∧ ∀ c ∈ digits, isAsciiDigit c = true

/-- What stands between the quotes for a text: two quotes for each quote, and every other character
for itself. -/
inductive Doubled : List Char → List Char → Prop where
  | nil : Doubled [] []
  | quote {body text : List Char} : Doubled body text → Doubled ('\'' :: '\'' :: body) ('\'' :: text)
  | other {c : Char} {body text : List Char} :
      c ≠ '\'' → Doubled body text → Doubled (c :: body) (c :: text)

/-- A text is written for a literal. -/
inductive Writes : List Char → Literal → Prop where
  | null : Writes "NULL".toList .null
  | true : Writes "TRUE".toList (.bool true)
  | false : Writes "FALSE".toList (.bool false)
  | unsigned {digits : List Char} :
      IsNumeral digits → Writes digits (.int (asciiNumber digits))
  | plus {digits : List Char} :
      IsNumeral digits → Writes ('+' :: digits) (.int (asciiNumber digits))
  | minus {digits : List Char} :
      IsNumeral digits → Writes ('-' :: digits) (.int (-asciiNumber digits))
  | text {body text : List Char} :
      Doubled body text → Writes ('\'' :: (body ++ ['\''])) (.text (String.ofList text))

/-- A text is written for a list of literals, with a comma between neighbours. -/
inductive WritesAll : List Char → List Literal → Prop where
  | none : WritesAll [] []
  | one {text : List Char} {literal : Literal} : Writes text literal → WritesAll text [literal]
  | more {text rest : List Char} {literal next : Literal} {literals : List Literal} :
      Writes text literal → WritesAll rest (next :: literals) →
      WritesAll (text ++ ',' :: rest) (literal :: next :: literals)

/-! ## The reader -/

/-- The number that a run of ASCII digits writes. -/
def readNumeral? (digits : List Char) : Option Nat :=
  if digits ≠ [] ∧ digits.all isAsciiDigit = true then some (asciiNumber digits) else none

/-- The integer that a text writes, with or without a sign. -/
def readInteger? (text : List Char) : Option Int :=
  match text with
  | '+' :: digits => (readNumeral? digits).map fun (n : Nat) => (n : Int)
  | '-' :: digits => (readNumeral? digits).map fun (n : Nat) => -(n : Int)
  | digits => (readNumeral? digits).map fun (n : Nat) => (n : Int)

/-- The literal that a text is written for. -/
def readLiteral? (text : List Char) : Option Literal :=
  if text = "NULL".toList then some .null
  else if text = "TRUE".toList then some (.bool true)
  else if text = "FALSE".toList then some (.bool false)
  else match readQuoted? text with
    | some inner => some (.text (String.ofList inner))
    | none => (readInteger? text).map .int

/-- The literals of a list of literals. -/
def readLiterals? (list : List Char) : Option (List Literal) :=
  if list.isEmpty then some [] else (splitOutside false list).mapM readLiteral?

/-! ## One literal -/

theorem readNumeral?_eq_some_iff {digits : List Char} {n : Nat} :
    readNumeral? digits = some n ↔ IsNumeral digits ∧ asciiNumber digits = n := by
  simp [readNumeral?, IsNumeral]

theorem doubled_iff {body text : List Char} :
    Doubled body text ↔ body = replaceChar '\'' ['\'', '\''] text := by
  constructor
  · intro doubled
    induction doubled with
    | nil => rfl
    | quote _ ih => rw [double_cons, if_pos rfl, ih]; rfl
    | other different _ ih => rw [double_cons, if_neg different, ih]; rfl
  · rintro rfl
    induction text with
    | nil => exact .nil
    | cons c text ih =>
        rw [double_cons]
        by_cases quote : c = '\''
        · subst quote
          exact .quote ih
        · rw [if_neg quote]
          exact .other quote ih

/-- The rest of a quoted text is what is written for it, and the quote that closes it; a quote that
has just been read is the first character of that. -/
theorem readInside?_eq_some {rest text : List Char} (pending : Bool)
    (read : readInside? pending rest = some text) :
    ∃ body, (if pending then '\'' :: rest else rest) = body ++ ['\''] ∧ Doubled body text := by
  induction rest generalizing pending text with
  | nil =>
      cases pending with
      | true =>
          obtain rfl : text = [] := by simpa [readInside?] using read.symm
          exact ⟨[], rfl, .nil⟩
      | false => simp [readInside?] at read
  | cons c rest ih =>
      by_cases quote : c = '\''
      · subst quote
        cases pending with
        | true =>
            simp only [readInside?, if_true, Option.map_eq_some_iff] at read
            obtain ⟨others, later, rfl⟩ := read
            obtain ⟨body, whole, doubled⟩ := ih false later
            simp only [Bool.false_eq_true, if_false] at whole
            exact ⟨'\'' :: '\'' :: body, by simp [whole], .quote doubled⟩
        | false =>
            simp only [readInside?, if_true, Bool.false_eq_true, if_false] at read
            obtain ⟨body, whole, doubled⟩ := ih true read
            exact ⟨body, by simpa using whole, doubled⟩
      · cases pending with
        | true => simp [readInside?, quote] at read
        | false =>
            simp only [readInside?, quote, Bool.false_eq_true, if_false,
              Option.map_eq_some_iff] at read
            obtain ⟨others, later, rfl⟩ := read
            obtain ⟨body, whole, doubled⟩ := ih false later
            simp only [Bool.false_eq_true, if_false] at whole
            exact ⟨c :: body, by simp [whole], .other quote doubled⟩

theorem readQuoted?_eq_some_iff {list text : List Char} :
    readQuoted? list = some text ↔ ∃ body, list = '\'' :: (body ++ ['\'']) ∧ Doubled body text := by
  constructor
  · intro read
    cases list with
    | nil => cases read
    | cons c rest =>
        by_cases quote : c = '\''
        · subst quote
          rw [readQuoted?, if_pos rfl] at read
          obtain ⟨body, whole, doubled⟩ := readInside?_eq_some false read
          simp only [Bool.false_eq_true, if_false] at whole
          exact ⟨body, by rw [whole], doubled⟩
        · rw [readQuoted?, if_neg quote] at read
          cases read
  · rintro ⟨body, rfl, doubled⟩
    rw [doubled_iff.1 doubled]
    exact readQuoted?_quoted text

theorem readInteger?_eq_some_iff {text : List Char} {n : Int} :
    readInteger? text = some n ↔ Writes text (.int n) := by
  constructor
  · intro read
    unfold readInteger? at read
    split at read
    · obtain ⟨size, found, rfl⟩ := Option.map_eq_some_iff.1 read
      obtain ⟨numeral, rfl⟩ := readNumeral?_eq_some_iff.1 found
      exact .plus numeral
    · obtain ⟨size, found, rfl⟩ := Option.map_eq_some_iff.1 read
      obtain ⟨numeral, rfl⟩ := readNumeral?_eq_some_iff.1 found
      exact .minus numeral
    · obtain ⟨size, found, rfl⟩ := Option.map_eq_some_iff.1 read
      obtain ⟨numeral, rfl⟩ := readNumeral?_eq_some_iff.1 found
      exact .unsigned numeral
  · intro written
    cases written with
    | plus numeral => simp [readInteger?, readNumeral?_eq_some_iff.2 ⟨numeral, rfl⟩]
    | minus numeral => simp [readInteger?, readNumeral?_eq_some_iff.2 ⟨numeral, rfl⟩]
    | unsigned numeral =>
        have found := readNumeral?_eq_some_iff.2 ⟨numeral, rfl⟩
        unfold readInteger?
        split
        · exact absurd (numeral.2 '+' List.mem_cons_self) (by decide)
        · exact absurd (numeral.2 '-' List.mem_cons_self) (by decide)
        · rw [found]
          rfl

/-- **A literal is read exactly from the texts that are written for it.** -/
theorem readLiteral?_eq_some_iff {text : List Char} {literal : Literal} :
    readLiteral? text = some literal ↔ Writes text literal := by
  constructor
  · intro read
    unfold readLiteral? at read
    split at read
    · rename_i word
      cases read
      rw [word]
      exact .null
    · split at read
      · rename_i word
        cases read
        rw [word]
        exact .true
      · split at read
        · rename_i word
          cases read
          rw [word]
          exact .false
        · split at read
          · rename_i inner quoted
            cases read
            obtain ⟨body, rfl, doubled⟩ := readQuoted?_eq_some_iff.1 quoted
            exact .text doubled
          · obtain ⟨n, found, rfl⟩ := Option.map_eq_some_iff.1 read
            exact readInteger?_eq_some_iff.1 found
  · intro written
    -- an integer begins with a sign or a digit, so it is neither a word nor quoted
    have integer {text : List Char} {n : Int} (found : readInteger? text = some n)
        {c : Char} {rest : List Char} (starts : text = c :: rest)
        (special : c ∉ ['N', 'T', 'F', '\'']) : readLiteral? text = some (.int n) := by
      subst starts
      simp only [List.mem_cons, List.not_mem_nil, or_false, not_or] at special
      obtain ⟨notN, notT, notF, notQuote⟩ := special
      simp [readLiteral?, readQuoted?, notN, notT, notF, notQuote, found]
    cases written with
    | null => rfl
    | true => rfl
    | false => rfl
    | plus numeral =>
        exact integer (readInteger?_eq_some_iff.2 (.plus numeral)) rfl (by decide)
    | minus numeral =>
        exact integer (readInteger?_eq_some_iff.2 (.minus numeral)) rfl (by decide)
    | unsigned numeral =>
        obtain ⟨c, rest, starts⟩ := List.exists_cons_of_ne_nil numeral.1
        refine integer (readInteger?_eq_some_iff.2 (.unsigned numeral)) starts ?_
        have digit := numeral.2 c (by rw [starts]; exact List.mem_cons_self)
        intro special
        simp only [List.mem_cons, List.not_mem_nil, or_false] at special
        rcases special with rfl | rfl | rfl | rfl <;> exact absurd digit (by decide)
    | text doubled =>
        have read := readQuoted?_eq_some_iff.2 ⟨_, rfl, doubled⟩
        simp [readLiteral?, read]

/-! ## Lists of literals -/

theorem splitOutside_ne_nil (inside : Bool) (text : List Char) : splitOutside inside text ≠ [] := by
  cases text with
  | nil => simp [splitOutside]
  | cons c text =>
      rw [splitOutside]
      split
      · simp
      · cases splitOutside (if c = '\'' then !inside else inside) text <;> simp [onto]

/-- A text without commas and quotes is a whole text. -/
theorem whole_of_plain {text : List Char} (plain : ∀ c ∈ text, c ≠ ',' ∧ c ≠ '\'') : Whole text := by
  intro rest
  induction text with
  | nil =>
      obtain ⟨piece, pieces, cut⟩ := List.exists_cons_of_ne_nil (splitOutside_ne_nil false rest)
      rw [List.nil_append, cut]
      rfl
  | cons c text ih =>
      obtain ⟨noComma, noQuote⟩ := plain c List.mem_cons_self
      have later := ih fun d member => plain d (List.mem_cons_of_mem _ member)
      rw [List.cons_append, splitOutside, if_neg (by simp [noComma]), if_neg noQuote, later, onto_onto]
      rfl

theorem IsNumeral.plain {digits : List Char} (numeral : IsNumeral digits) :
    ∀ c ∈ digits, c ≠ ',' ∧ c ≠ '\'' := by
  intro c member
  have digit := numeral.2 c member
  constructor <;> rintro rfl <;> exact absurd digit (by decide)

theorem Writes.whole {text : List Char} {literal : Literal} (written : Writes text literal) :
    Whole text := by
  cases written with
  | null => exact whole_of_plain (by simp)
  | true => exact whole_of_plain (by simp)
  | false => exact whole_of_plain (by simp)
  | unsigned numeral => exact whole_of_plain numeral.plain
  | plus numeral => exact whole_of_plain (List.forall_mem_cons.2 ⟨by decide, numeral.plain⟩)
  | minus numeral => exact whole_of_plain (List.forall_mem_cons.2 ⟨by decide, numeral.plain⟩)
  | text doubled =>
      rw [doubled_iff.1 doubled]
      exact whole_quoted _

theorem Writes.ne_nil {text : List Char} {literal : Literal} (written : Writes text literal) :
    text ≠ [] := by
  cases written with
  | unsigned numeral => exact numeral.1
  | _ => simp

/-- Nothing of a text is lost where it is cut. -/
theorem joinWith_splitOutside (inside : Bool) (text : List Char) :
    joinWith [','] (splitOutside inside text) = text := by
  induction text generalizing inside with
  | nil => rfl
  | cons c text ih =>
      rw [splitOutside]
      split
      · rename_i comma
        obtain ⟨piece, pieces, cut⟩ := List.exists_cons_of_ne_nil (splitOutside_ne_nil false text)
        have rest := ih false
        rw [cut] at rest ⊢
        rw [joinWith, rest, comma.1]
        · rfl
        · simp
      · obtain ⟨piece, pieces, cut⟩ :=
          List.exists_cons_of_ne_nil (splitOutside_ne_nil (if c = '\'' then !inside else inside) text)
        have rest := ih (if c = '\'' then !inside else inside)
        rw [cut] at rest ⊢
        rw [← rest]
        cases pieces <;> simp [onto, joinWith]

/-- A list of literals is written as texts for the literals, with commas between them. -/
theorem writesAll_iff {list : List Char} {literals : List Literal} :
    WritesAll list literals ↔
      ∃ texts, list = joinWith [','] texts ∧ List.Forall₂ Writes texts literals := by
  constructor
  · intro written
    induction written with
    | none => exact ⟨[], rfl, .nil⟩
    | one written => exact ⟨[_], rfl, .cons written .nil⟩
    | more written _ ih =>
        obtain ⟨texts, rfl, each⟩ := ih
        obtain ⟨text, others, -, -, rfl⟩ := List.forall₂_cons_right_iff.1 each
        exact ⟨_ :: text :: others, by simp [joinWith], .cons written each⟩
  · rintro ⟨texts, rfl, each⟩
    induction each with
    | nil => exact .none
    | cons written rest ih =>
        cases rest with
        | nil => exact .one written
        | cons next others =>
            rw [joinWith, List.append_assoc]
            · exact .more written ih
            · simp

/-- Every piece of a list is read exactly if each of them is written for its literal. -/
theorem mapM_readLiteral?_eq_some_iff {texts : List (List Char)} {literals : List Literal} :
    texts.mapM readLiteral? = some literals ↔ List.Forall₂ Writes texts literals := by
  induction texts generalizing literals with
  | nil => simp [eq_comm]
  | cons text texts ih =>
      rw [List.forall₂_cons_left_iff, List.mapM_cons]
      simp only [Option.bind_eq_bind, Option.bind_eq_some_iff, readLiteral?_eq_some_iff, ih,
        Option.pure_def, Option.some.injEq]
      exact ⟨fun ⟨literal, written, others, each, same⟩ => ⟨literal, others, written, each, same.symm⟩,
        fun ⟨literal, others, written, each, same⟩ => ⟨literal, written, others, each, same.symm⟩⟩

theorem splitOutside_of_forall₂ {texts : List (List Char)} {literals : List Literal}
    (some : texts ≠ []) (each : List.Forall₂ Writes texts literals) :
    splitOutside false (joinWith [','] texts) = texts := by
  refine splitOutside_joinWith some fun text member => ?_
  obtain ⟨place, inside, rfl⟩ := List.getElem_of_mem member
  exact (each.get inside (each.length_eq ▸ inside)).whole

/-- **Reading accepts what the grammar allows, and nothing else.** -/
theorem readLiterals?_eq_some_iff {list : List Char} {literals : List Literal} :
    readLiterals? list = some literals ↔ WritesAll list literals := by
  rw [writesAll_iff, readLiterals?]
  constructor
  · intro read
    split at read
    · rename_i empty
      cases read
      exact ⟨[], List.isEmpty_iff.1 empty, .nil⟩
    · exact ⟨_, (joinWith_splitOutside false list).symm, mapM_readLiteral?_eq_some_iff.1 read⟩
  · rintro ⟨texts, rfl, each⟩
    cases texts with
    | nil =>
        cases each
        rfl
    | cons text texts =>
        obtain ⟨literal, others, written, -, rfl⟩ := List.forall₂_cons_left_iff.1 each
        have full : (joinWith [','] (text :: texts)).isEmpty = false := by
          cases texts <;> simp [joinWith, written.ne_nil]
        rw [full, if_neg (by simp), splitOutside_of_forall₂ (by simp) each,
          mapM_readLiteral?_eq_some_iff.2 each]

/-- A text is the list of one sequence of literals at most. -/
theorem WritesAll.unique {list : List Char} {literals others : List Literal}
    (written : WritesAll list literals) (also : WritesAll list others) : literals = others := by
  have read := readLiterals?_eq_some_iff.2 written
  rw [readLiterals?_eq_some_iff.2 also] at read
  exact (Option.some.inj read).symm

/-! ## What is inlined -/

theorem isNumeral_digits (n : Nat) : IsNumeral (digits n) :=
  ⟨digits_ne_nil n, fun _ member => isAsciiDigit_of_mem_digits member⟩

/-- What is inlined for a literal is written for it. -/
theorem writes_inlined (literal : Literal) : Writes literal.inlined literal := by
  cases literal with
  | null => exact .null
  | bool b =>
      cases b with
      | true => exact .true
      | false => exact .false
  | text s =>
      have written := Writes.text (doubled_iff.2 (rfl : _ = replaceChar '\'' ['\'', '\''] s.toList))
      rw [String.ofList_toList] at written
      show Writes (sqlText s).toList _
      rw [toList_sqlText]
      exact written
  | int n =>
      cases n with
      | ofNat n =>
          have written := Writes.unsigned (isNumeral_digits n)
          rw [asciiNumber_digits] at written
          exact written
      | negSucc n =>
          have written := Writes.minus (isNumeral_digits (n + 1))
          rw [asciiNumber_digits] at written
          have inlined : (Literal.int (Int.negSucc n)).inlined = '-' :: digits (n + 1) := by
            show ("-" ++ toString (n + 1)).toList = _
            rw [String.toList_append]
            rfl
          rw [inlined]
          exact written

theorem toList_literals_toValue (literals : List Literal) :
    (Engine.literals (literals.map Literal.toValue)).toList
      = joinWith [','] (literals.map Literal.inlined) := by
  rw [Engine.literals, toList_intercalate, List.map_map, List.map_map]
  rfl

theorem forall₂_inlined (literals : List Literal) :
    List.Forall₂ Writes (literals.map Literal.inlined) literals := by
  rw [List.forall₂_map_left_iff, List.forall₂_same]
  exact fun literal _ => writes_inlined literal

/-- **What is inlined for literals is a list of these literals.** -/
theorem writesAll_literals (literals : List Literal) :
    WritesAll (Engine.literals (literals.map Literal.toValue)).toList literals := by
  rw [toList_literals_toValue]
  exact writesAll_iff.2 ⟨_, rfl, forall₂_inlined literals⟩

/-- As many values as columns with text names are inserted by a statement that ends with the
values. -/
theorem insert_literals (engine : Engine) (table : Value) {columns : List String}
    {literals : List Literal} (matching : columns.length = literals.length) :
    engine.insert table (.list (columns.map .text)) (.list (literals.map Literal.toValue))
      = .ok ("INSERT INTO " ++ engine.identifier table ++ " ("
          ++ ",".intercalate (columns.map fun column => engine.identifier (.text column))
          ++ ") VALUES (" ++ Engine.literals (literals.map Literal.toValue) ++ ");") := by
  have names : engine.dialect.quoteAll "," (columns.map .text)
      = .ok (",".intercalate (columns.map fun column => engine.identifier (.text column))) := by
    rw [Dialect.quoteAll, ← Value.join_map_text, List.map_map, List.map_map]
    congr 1
    exact List.map_congr_left fun column _ => Dialect.quote_text engine column
  have sizes : (columns.map Value.text).length = (literals.map Literal.toValue).length := by
    simp [matching]
  rw [Engine.insert, Value.size_list, Value.size_list]
  simp only [bind, Except.bind, sizes, ne_eq, not_true_eq_false, if_false, Value.items_list, names]

/-- **Inserted values are read back.**  Null, truth values, integers and texts that are inserted, as
many as there are columns, are inlined as a text that is read back as exactly these values in this
order.  The grammar allows it for no others, so no others are inlined alike; and what stands
between the commas outside quotes is what was inlined for each value, so no value ends its literal
early or goes on into the next. -/
theorem inserted_values_are_read_back (engine : Engine) (table : Value) {columns : List String}
    {literals : List Literal} (matching : columns.length = literals.length) :
    ∃ body,
      engine.insert table (.list (columns.map .text)) (.list (literals.map Literal.toValue))
        = .ok ("INSERT INTO " ++ engine.identifier table ++ " ("
            ++ ",".intercalate (columns.map fun column => engine.identifier (.text column))
            ++ ") VALUES (" ++ body ++ ");") ∧
      body = ",".intercalate (literals.map fun literal => literal.toValue.sqlLiteral) ∧
      readLiterals? body.toList = some literals ∧
      (∀ others, WritesAll body.toList others ↔ others = literals) ∧
      (∀ others : List Literal,
        ",".intercalate (others.map fun literal => literal.toValue.sqlLiteral) = body →
        others = literals) ∧
      (literals ≠ [] → splitOutside false body.toList = literals.map Literal.inlined) := by
  have each (literals : List Literal) :
      ",".intercalate (literals.map fun literal => literal.toValue.sqlLiteral)
        = Engine.literals (literals.map Literal.toValue) := by
    rw [Engine.literals, List.map_map]
    rfl
  have written := writesAll_literals literals
  refine ⟨_, insert_literals engine table matching, (each literals).symm,
    readLiterals?_eq_some_iff.2 written, ?_, ?_, ?_⟩
  · intro others
    constructor
    · exact fun also => also.unique written
    · rintro rfl
      exact written
  · intro others same
    have also := writesAll_literals others
    rw [← each, same] at also
    exact also.unique written
  · intro some
    rw [toList_literals_toValue]
    exact splitOutside_of_forall₂ (by simpa using some) (forall₂_inlined literals)

/-- A text with quotes at both ends, a text that looks like a word, and a negative integer. -/
theorem inserted_values_are_read_back_quotes :
    ["a", "b", "c"].length = [Literal.text "'it''s,'", .text "NULL", .int (-70)].length ∧
      ∃ body,
        Engine.insert .mysql (.text "t") (.list [.text "a", .text "b", .text "c"])
            (.list [.text "'it''s,'", .text "NULL", .int (-70)])
          = .ok ("INSERT INTO t (a,b,c) VALUES (" ++ body ++ ");") ∧
        body = "'''it''''s,''','NULL',-70" ∧
        readLiterals? body.toList = some [.text "'it''s,'", .text "NULL", .int (-70)] := by
  obtain ⟨body, inserted, same, read, -⟩ := @inserted_values_are_read_back .mysql (.text "t")
    ["a", "b", "c"] [.text "'it''s,'", .text "NULL", .int (-70)] rfl
  exact ⟨rfl, body, inserted, same, read⟩

end SchemaChange.Statement
