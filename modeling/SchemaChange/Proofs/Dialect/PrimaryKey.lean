/-
# SchemaChange.Proofs.Dialect.PrimaryKey — a new table declares its primary key once

How the primary key is declared depends on all columns of a table.  A key of one column is
declared in the constraint of that column; for a key of several, the table has a clause, and no
column says anything about it.  The constraint itself is rendered for one column at a time.

* `constraintTokens_eq`, `filter_constraintWords` — a constraint is a sequence of words, of which
  `keyDeclaration` are those about the primary key, and then the default value.
* `Value.sqlDefault_not_mem_keyWords` — no default value reads like one of these words.
* `primary_key_is_declared_once` — what the statement that creates a table says about its key.
-/
import Mathlib.Data.List.Forall2
import Mathlib.Data.List.Nodup
import SchemaChange.Proofs.Dialect.ColumnType

set_option autoImplicit false

namespace SchemaChange

/-! ## Numbers are written without capitals -/

namespace Binary64

theorem capitalR_not_mem_toDigits (n : Nat) : 'R' ∉ Nat.toDigits 10 n := by
  intro digit
  exact absurd (Nat.isDigit_of_mem_toDigits (by decide) (by decide) digit) (by decide)

theorem capitalR_not_mem_significant (d : Decimal) : 'R' ∉ (significant d).1 := by
  intro inside
  have kept := (List.dropWhile_sublist _).subset (List.mem_reverse.1 inside)
  exact capitalR_not_mem_toDigits d.digits (List.mem_reverse.1 kept)

theorem capitalR_not_mem_positional {digits : List Char} (absent : 'R' ∉ digits) (lead : Int) :
    'R' ∉ positional digits lead := by
  unfold positional
  split
  · simp [absent]
  · simp only
    split
    · simp [absent]
    · have before (whole : Nat) : 'R' ∉ digits.take whole :=
        fun inside => absent (List.mem_of_mem_take inside)
      have after (whole : Nat) : 'R' ∉ digits.drop whole :=
        fun inside => absent (List.mem_of_mem_drop inside)
      simp [before, after]

theorem capitalR_not_mem_scientific {digits : List Char} (absent : 'R' ∉ digits) (lead : Int) :
    'R' ∉ scientific digits lead := by
  have sign : 'R' ≠ (if lead < 0 then '-' else '+') := by split <;> decide
  have padded {power : List Char} (plain : 'R' ∉ power) :
      'R' ∉ (if power.length < 2 then '0' :: power else power) := by
    split <;> simp [plain]
  have exponent := padded (capitalR_not_mem_toDigits lead.natAbs)
  have behind := List.not_mem_cons_of_ne_of_not_mem (show 'R' ≠ 'e' by decide)
    (List.not_mem_cons_of_ne_of_not_mem sign exponent)
  unfold scientific
  simp only
  split
  · refine List.not_mem_append ?_ behind
    simpa using absent
  · exact List.not_mem_append absent behind

/-- The text of a number has no capital R, which every word about keys has. -/
theorem capitalR_not_mem_text (x : Binary64) : 'R' ∉ x.text := by
  cases x with
  | nan => decide
  | infinite negative => cases negative <;> decide
  | finite negative coefficient exponent =>
      have sign : 'R' ∉ (if negative = true then ['-'] else []) := by cases negative <;> decide
      have number : 'R' ∉ (if coefficient = 0 then ['0', '.', '0']
          else positiveText coefficient exponent) := by
        split
        · decide
        · unfold positiveText
          simp only
          split
          · exact capitalR_not_mem_positional (capitalR_not_mem_significant _) _
          · exact capitalR_not_mem_scientific (capitalR_not_mem_significant _) _
      exact List.not_mem_append sign number

end Binary64

/-! ## The words about keys -/

/-- The words by which the engines declare a primary key, and a column that numbers itself. -/
def keyWords : List String :=
  ["PRIMARY KEY", "SERIAL", "AUTO_INCREMENT", "AUTOINCREMENT"]

theorem mem_of_mem_keyWords {word : String} (keyWord : word ∈ keyWords) :
    'R' ∈ word.toList ∧ '\'' ∉ word.toList := by
  revert word
  decide

/-- Whether a value is null, a truth value, a number or a text. -/
def Value.IsScalar : Value → Prop
  | .null | .bool _ | .int _ | .float _ | .text _ => True
  | _ => False

/-- **A default value does not read like a word about keys**: a number has no capitals, and a text
stands between quotes. -/
theorem Value.sqlDefault_not_mem_keyWords {value : Value} (scalar : value.IsScalar) :
    value.sqlDefault ∉ keyWords := by
  intro keyWord
  obtain ⟨letter, noQuote⟩ := mem_of_mem_keyWords keyWord
  cases value with
  | null => revert keyWord; decide
  | bool b => cases b <;> revert keyWord <;> decide
  | int n =>
      have written : (Value.int n).sqlDefault = n.repr := rfl
      rw [written, Int.repr_eq_if] at letter
      split at letter
      · rw [Nat.toList_repr] at letter
        exact Binary64.capitalR_not_mem_toDigits _ letter
      · rw [String.toList_append, Nat.toList_repr] at letter
        exact List.not_mem_append (by decide) (Binary64.capitalR_not_mem_toDigits _) letter
  | float x =>
      have written : (Value.float x).sqlDefault = String.ofList x.text := rfl
      rw [written, String.toList_ofList] at letter
      exact Binary64.capitalR_not_mem_text x letter
  | text s => simp [sqlDefault] at noQuote
  | _ => exact scalar

/-! ## Columns with text names -/

namespace Table

/-- The names of the columns that are flagged as primary key, in order. -/
def keyNames (columns : List (String × ColumnSpec)) : List String :=
  (columns.filter fun column => column.2.primaryKey.truthy).map Prod.fst

/-- The table with these columns. -/
def ofColumns (columns : List (String × ColumnSpec)) (ifNotExists : Value) : Table :=
  ⟨columns.map fun column => (.text column.1, column.2), ifNotExists⟩

theorem primaryKey_ofColumns (columns : List (String × ColumnSpec)) (ifNotExists : Value) :
    (ofColumns columns ifNotExists).primaryKey = (keyNames columns).map .text := by
  simp [ofColumns, Table.primaryKey, keyNames, List.filter_map, Function.comp_def]

end Table

namespace Engine

/-! ## The constraint of a column -/

/-- The words by which a column that is the primary key declares it.  PostgreSQL numbers a column
by its type, which stands first. -/
def keyDeclaration (engine : Engine) (spec : ColumnSpec) : List String :=
  match engine with
  | .postgres => (if spec.autoIncrement.truthy then ["SERIAL"] else []) ++ ["PRIMARY KEY"]
  | .mysql => ["PRIMARY KEY"] ++ if spec.autoIncrement.truthy then ["AUTO_INCREMENT"] else []
  | .sqlite => ["PRIMARY KEY"] ++ if spec.autoIncrement.truthy then ["AUTOINCREMENT"] else []

/-- The words by which a column declares the primary key, if it is flagged and is to declare it. -/
def declaredWords (engine : Engine) (spec : ColumnSpec) (emitPrimaryKey : Bool) : List String :=
  if spec.primaryKey.truthy && emitPrimaryKey then engine.keyDeclaration spec else []

/-- The words of a constraint up to the default value. -/
def constraintWords (engine : Engine) (spec : ColumnSpec) (emitPrimaryKey : Bool) : List String :=
  (if spec.unsigned.truthy && engine.dialect.allowsUnsigned then ["UNSIGNED"] else [])
    ++ engine.declaredWords spec emitPrimaryKey
    ++ (if spec.notNull.truthy then ["NOT NULL"] else [])
    ++ (if spec.unique.truthy then ["UNIQUE"] else [])
    ++ (if spec.null.truthy && engine.dialect.allowsNull then ["NULL"] else [])

/-- The words of a constraint from the default value on. -/
def defaultWords (spec : ColumnSpec) : List String :=
  if spec.defaultValue.isNull then [] else ["DEFAULT", spec.defaultValue.sqlDefault]

theorem keyTokens_eq (engine : Engine) (spec : ColumnSpec) (emitPrimaryKey : Bool) :
    engine.dialect.keyTokens spec emitPrimaryKey
      = (engine.declaredWords spec emitPrimaryKey).map .text := by
  unfold Dialect.keyTokens declaredWords keyDeclaration
  split
  · cases engine <;> cases spec.autoIncrement.truthy <;> rfl
  · rfl

theorem map_defaultWords (spec : ColumnSpec) :
    (defaultWords spec).map Value.text = Dialect.defaultTokens spec := by
  unfold defaultWords Dialect.defaultTokens
  split <;> rfl

/-- A constraint is a sequence of words, with the default value behind them. -/
theorem constraintTokens_eq (engine : Engine) (spec : ColumnSpec) (emitPrimaryKey : Bool) :
    engine.dialect.constraintTokens spec emitPrimaryKey =
      (engine.constraintWords spec emitPrimaryKey ++ defaultWords spec).map .text := by
  have word (condition : Bool) (text : String) :
      (if condition then [text] else []).map Value.text = if condition then [.text text] else [] := by
    split <;> rfl
  simp only [Dialect.constraintTokens, keyTokens_eq, constraintWords, List.map_append, word,
    map_defaultWords]

theorem filter_declaredWords (engine : Engine) (spec : ColumnSpec) (emitPrimaryKey : Bool) :
    (engine.declaredWords spec emitPrimaryKey).filter (· ∈ keyWords)
      = engine.declaredWords spec emitPrimaryKey := by
  unfold declaredWords keyDeclaration
  split
  · cases engine <;> cases spec.autoIncrement.truthy <;> decide
  · rfl

/-- **The words about keys in a constraint are those that declare the primary key.** -/
theorem filter_constraintWords (engine : Engine) (spec : ColumnSpec) (emitPrimaryKey : Bool) :
    (engine.constraintWords spec emitPrimaryKey).filter (· ∈ keyWords)
      = engine.declaredWords spec emitPrimaryKey := by
  have other (condition : Bool) {word : String} (apart : word ∉ keyWords) :
      (if condition then [word] else []).filter (· ∈ keyWords) = [] := by
    split <;> simp [apart]
  simp only [constraintWords, List.filter_append, filter_declaredWords,
    other _ (show "UNSIGNED" ∉ keyWords by decide), other _ (show "NOT NULL" ∉ keyWords by decide),
    other _ (show "UNIQUE" ∉ keyWords by decide), other _ (show "NULL" ∉ keyWords by decide),
    List.nil_append, List.append_nil]

/-- No word about keys is in a default value. -/
theorem filter_defaultWords {spec : ColumnSpec} (scalar : spec.defaultValue.IsScalar) :
    (defaultWords spec).filter (· ∈ keyWords) = [] := by
  unfold defaultWords
  split
  · rfl
  · have value := Value.sqlDefault_not_mem_keyWords scalar
    simp [value, show "DEFAULT" ∉ keyWords by decide]

/-! ## The columns of a table -/

/-- The names of columns as a statement writes them. -/
def columnNames (engine : Engine) (names : List String) : List String :=
  names.map fun name => engine.identifier (.text name)

/-- The definition of a column whose constraint has exactly these words about keys, and then the
default value, which has none if it is a value that a column can have. -/
def Defines (engine : Engine) (emitPrimaryKey : Bool) (declared : List String)
    (column : String × ColumnSpec) (definition : String) : Prop :=
  ∃ (length : String) (words default : List String),
    definition = " ".intercalate [engine.identifier (.text column.1),
      engine.dialect.typeFragment column.2, length, " ".intercalate (words ++ default)]
    ∧ engine.dialect.constraintTokens column.2 emitPrimaryKey = (words ++ default).map .text
    ∧ Dialect.defaultTokens column.2 = default.map .text
    ∧ words.filter (· ∈ keyWords) = declared
    ∧ (column.2.defaultValue.IsScalar → default.filter (· ∈ keyWords) = [])

theorem columnDefinition_defines (engine : Engine) {emitPrimaryKey : Bool}
    {column : String × ColumnSpec} {definition : String}
    (defined : (engine.dialect.columnDefinition (.text column.1) column.2 emitPrimaryKey).result
      = .ok definition) :
    engine.Defines emitPrimaryKey (engine.declaredWords column.2 emitPrimaryKey) column definition := by
  obtain ⟨length, constraint, -, listed, result⟩ :=
    Dialect.columnDefinition_result engine column.1 column.2 emitPrimaryKey
  rw [result] at defined
  obtain rfl := Except.ok.inj defined
  have tokens := constraintTokens_eq engine column.2 emitPrimaryKey
  rw [Dialect.constraint, tokens, Value.join_map_text] at listed
  obtain rfl := Except.ok.inj listed
  exact ⟨length, engine.constraintWords column.2 emitPrimaryKey, defaultWords column.2, rfl, tokens,
    (map_defaultWords column.2).symm, filter_constraintWords engine column.2 emitPrimaryKey,
    filter_defaultWords⟩

/-- Every column has one definition, in order. -/
theorem columnDefinitions_define (engine : Engine) (emitPrimaryKey : Bool)
    (columns : List (String × ColumnSpec)) (ifNotExists : Value) :
    ∃ definitions,
      (engine.columnDefinitions emitPrimaryKey (Table.ofColumns columns ifNotExists).columns).result
        = .ok definitions
      ∧ List.Forall₂ (fun column definition => engine.Defines emitPrimaryKey
          (engine.declaredWords column.2 emitPrimaryKey) column definition) columns definitions := by
  have named : ∀ column ∈ (Table.ofColumns columns ifNotExists).columns,
      ∃ name, column.1 = .text name := by
    intro column member
    obtain ⟨origin, -, rfl⟩ := List.mem_map.1 member
    exact ⟨origin.1, rfl⟩
  obtain ⟨definitions, defined, each⟩ := engine.columnDefinitions_result emitPrimaryKey named
  refine ⟨definitions, defined, ?_⟩
  have pairs : List.Forall₂ Eq _ _ := List.forall₂_eq_eq_eq ▸ each
  rw [List.forall₂_map_right_iff, Table.ofColumns, List.map_map, List.forall₂_map_left_iff] at pairs
  exact pairs.imp fun column definition same => columnDefinition_defines engine same

/-! ## The key of a table -/

theorem commaSeparated_concat {texts : List String} (ne : texts ≠ []) (last : String) :
    commaSeparated (texts ++ [last]) = commaSeparated texts ++ ", " ++ last := by
  rw [commaSeparated, String.intercalate_append_of_ne_nil ne (List.cons_ne_nil _ _),
    String.intercalate_singleton]
  rfl

theorem primaryKeyClause_eq (engine : Engine) (names : List String) :
    engine.primaryKeyClause (names.map .text) =
      .ok (if names.length ≤ 1 then ""
        else ", PRIMARY KEY (" ++ commaSeparated (engine.columnNames names) ++ ")") := by
  have quoted : (names.map Value.text).map engine.dialect.quote
      = (engine.columnNames names).map .text := by
    simp [columnNames, Dialect.quote_text]
  unfold primaryKeyClause
  rw [List.length_map]
  split
  · rfl
  · rw [identifiers, Dialect.quoteAll, quoted, Value.join_map_text]
    rfl

theorem identifier_injective (engine : Engine) {first second : String}
    (same : engine.identifier (.text first) = engine.identifier (.text second)) : first = second := by
  cases engine <;>
    simpa [identifier, Dialect.quote, dialect, Dialect.postgres, Dialect.mysql, Dialect.sqlite,
      Value.truthy, Value.display] using same

/-- Columns with distinct names are listed once each. -/
theorem nodup_columnNames (engine : Engine) {columns : List (String × ColumnSpec)}
    (distinct : (columns.map Prod.fst).Nodup) :
    (engine.columnNames (Table.keyNames columns)).Nodup := by
  have flagged : (Table.keyNames columns).Sublist (columns.map Prod.fst) := List.filter_sublist.map _
  exact (distinct.sublist flagged).map fun _ _ same => engine.identifier_injective same

/-- **A new table declares its primary key exactly once.**  It has one definition for each column,
in order.  A key of at most one column is declared there, and the table has nothing else; for a key
of several columns no definition says anything, and the table ends with a clause that lists them. -/
theorem primary_key_is_declared_once (engine : Engine) {name options ifNotExists : Value}
    {columns : List (String × ColumnSpec)}
    (read : (readTable name options).result = .ok (Table.ofColumns columns ifNotExists)) :
    ∃ definitions clauses,
      (engine.createTable name options).result
        = .ok ("CREATE TABLE " ++ (if ifNotExists.truthy then "IF NOT EXISTS " else "")
            ++ engine.identifier name ++ " (" ++ commaSeparated (definitions ++ clauses) ++ ")")
      ∧ ((Table.keyNames columns).length ≤ 1 ∧ clauses = []
            ∧ List.Forall₂ (fun column definition => engine.Defines true
                (if column.2.primaryKey.truthy then engine.keyDeclaration column.2 else [])
                column definition) columns definitions
          ∨ 1 < (Table.keyNames columns).length
            ∧ clauses = ["PRIMARY KEY ("
                ++ commaSeparated (engine.columnNames (Table.keyNames columns)) ++ ")"]
            ∧ List.Forall₂ (engine.Defines false []) columns definitions)
      ∧ ((columns.map Prod.fst).Nodup → (engine.columnNames (Table.keyNames columns)).Nodup) := by
  have closed := engine.primaryKeyClause_eq (Table.keyNames columns)
  rw [← Table.primaryKey_ofColumns columns ifNotExists] at closed
  obtain ⟨definitions, defined, each⟩ := engine.columnDefinitions_define
    ((Table.ofColumns columns ifNotExists).primaryKey.length ≤ 1) columns ifNotExists
  have created := createTable_eq engine read defined closed
  rw [Table.primaryKey_ofColumns, List.length_map] at each
  by_cases single : (Table.keyNames columns).length ≤ 1
  · refine ⟨definitions, [], ?_, .inl ⟨single, rfl, by simpa [declaredWords, single] using each⟩,
      engine.nodup_columnNames⟩
    rw [created, if_pos single, List.append_nil, String.append_empty]
    rfl
  · have several : columns ≠ [] := by
      rintro rfl
      exact single (Nat.zero_le 1)
    have defines : definitions ≠ [] := by
      rintro rfl
      rw [List.forall₂_nil_right_iff] at each
      exact several each
    refine ⟨definitions, _, ?_, .inr ⟨by omega, rfl, by simpa [declaredWords, single] using each⟩,
      engine.nodup_columnNames⟩
    have words : ", PRIMARY KEY (" = ", " ++ "PRIMARY KEY (" := rfl
    rw [created, if_neg single, commaSeparated_concat defines, words]
    simp only [String.append_assoc]
    rfl

/-- A table of whose columns two are the primary key, which one of them numbers. -/
def sharedKey : List (String × ColumnSpec) :=
  [("id", numberedKey), ("note", .ofType (.kind .text)),
    ("part", { ColumnSpec.ofType (.kind .integer) with primaryKey := .int 1 })]

theorem primary_key_is_declared_once_shared :
    (∃ definitions,
      (createTable .postgres (.text "t") (Table.ofColumns sharedKey (.bool false)).toValue).result
        = .ok ("CREATE TABLE \"t\" ("
            ++ commaSeparated (definitions ++ ["PRIMARY KEY (\"id\", \"part\")"]) ++ ")")
      ∧ List.Forall₂ (Defines .postgres false []) sharedKey definitions)
    ∧ ∃ definition,
      (createTable .sqlite (.text "t")
          (Table.ofColumns [("id", numberedKey)] (.bool true)).toValue).result
        = .ok ("CREATE TABLE IF NOT EXISTS \"t\" (" ++ definition ++ ")")
      ∧ Defines .sqlite true ["PRIMARY KEY", "AUTOINCREMENT"] ("id", numberedKey) definition := by
  constructor
  · have read : (readTable (.text "t") (Table.ofColumns sharedKey (.bool false)).toValue).result
        = .ok (Table.ofColumns sharedKey (.bool false)) := rfl
    obtain ⟨definitions, clauses, created, one | several, -⟩ :=
      primary_key_is_declared_once .postgres read
    · exact absurd one.1 (by decide)
    · obtain ⟨-, rfl, defined⟩ := several
      exact ⟨definitions, created, defined⟩
  · have read : (readTable (.text "t")
          (Table.ofColumns [("id", numberedKey)] (.bool true)).toValue).result
        = .ok (Table.ofColumns [("id", numberedKey)] (.bool true)) := rfl
    obtain ⟨definitions, clauses, created, one | several, -⟩ :=
      primary_key_is_declared_once .sqlite read
    · obtain ⟨-, rfl, defined⟩ := one
      obtain ⟨definition, rest, first, last, rfl⟩ := List.forall₂_cons_left_iff.1 defined
      obtain rfl := List.forall₂_nil_left_iff.1 last
      exact ⟨definition, created, first⟩
    · exact absurd several.1 (by decide)

end Engine

end SchemaChange
