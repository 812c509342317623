/-
# SchemaChange.Proofs.Dialect.ColumnType — which column definitions have a type

A column definition is made of a name, a type, a length and a constraint, and a text name
always gets one (`columnDefinition_result`).  The type stands in its own fragment, except that
PostgreSQL leaves the fragment empty for every column that numbers itself and expects the
keyword `SERIAL` in the constraint instead.  That keyword is written for primary keys only, and
not where the primary key has a clause of its own.

* `typeFragment_eq_empty_iff` — when the type fragment is empty.
* `types_iff` — so a definition has a type unless PostgreSQL is given a column that numbers
  itself and is not declared the primary key (`LosesType`).
* `column_definitions_typed_iff` — the same of a single definition, of the columns of a new
  table, and of an added column.
-/
import SchemaChange.Operation.Rendering

set_option autoImplicit false

namespace SchemaChange

/-! ## Values that are texts -/

theorem Value.join_map_text (separator : String) (words : List String) :
    Value.join separator (words.map .text) = .ok (separator.intercalate words) := by
  have read : (words.map Value.text).mapM Value.text? = some words := by
    induction words with
    | nil => rfl
    | cons word words ih => rw [List.map_cons, List.mapM_cons, ih]; rfl
  rw [Value.join, read]

/-- Values that are all texts. -/
def Value.Texts (values : List Value) : Prop :=
  ∀ value ∈ values, ∃ word, value = .text word

namespace Value.Texts

variable {first second : List Value}

theorem words (words : List String) : Value.Texts (words.map .text) := by
  intro value inside
  obtain ⟨word, -, rfl⟩ := List.mem_map.1 inside
  exact ⟨word, rfl⟩

theorem append (a : Value.Texts first) (b : Value.Texts second) : Value.Texts (first ++ second) :=
  List.forall_mem_append.2 ⟨a, b⟩

/-- A word that is written on a condition. -/
theorem ite {condition : Prop} [Decidable condition] (texts : Value.Texts first) :
    Value.Texts (if condition then first else []) := by
  split
  · exact texts
  · exact words []

theorem exists_words (texts : Value.Texts first) : ∃ words : List String, first = words.map .text := by
  induction first with
  | nil => exact ⟨[], rfl⟩
  | cons value values ih =>
    obtain ⟨word, rfl⟩ := texts _ List.mem_cons_self
    obtain ⟨words, rfl⟩ := ih fun value inside => texts value (List.mem_cons_of_mem _ inside)
    exact ⟨word :: words, rfl⟩

theorem join (texts : Value.Texts first) (separator : String) :
    ∃ joined, Value.join separator first = .ok joined := by
  obtain ⟨words, rfl⟩ := texts.exists_words
  exact ⟨_, Value.join_map_text separator words⟩

end Value.Texts

namespace Dialect

/-! ## The type of a column -/

/-- The name of the type of a column. -/
def mappedType (dialect : Dialect) (spec : ColumnSpec) : String :=
  match dialect.ownType spec with
  | some own => own
  | none =>
    match spec.type with
    | .kind known => known.commonName
    | .named name => String.ofList (Text.upper name.toList)

/-- What stands in the type fragment of a column definition. -/
def typeFragment (dialect : Dialect) (spec : ColumnSpec) : String :=
  if dialect.autoIncrementIsType && spec.autoIncrement.truthy then "" else dialect.mappedType spec

theorem typeName_result (dialect : Dialect) (spec : ColumnSpec) :
    (dialect.typeName spec).result = .ok (dialect.mappedType spec) := by
  unfold typeName mappedType
  cases dialect.ownType spec with
  | some own => rfl
  | none => cases spec.type <;> rfl

theorem commonName_ne_empty (kind : ColumnKind) : kind.commonName ≠ "" := by
  cases kind <;> decide

theorem sizeTier_ne_empty {base : String} (sized : base = "TEXT" ∨ base = "BLOB") (length : Value) :
    sizeTier base length ≠ "" := by
  have named : ∀ type ∈ sizedTypes, type ≠ "" := by decide
  exact named _ (sizeTier_mem_sizedTypes sized length)

theorem ownType_ne_empty (engine : Engine) {spec : ColumnSpec} {own : String}
    (given : engine.dialect.ownType spec = some own) : own ≠ "" := by
  cases engine with
  | postgres =>
    simp only [Engine.dialect, postgres] at given
    split at given
    · obtain rfl := Option.some.inj given; decide
    · obtain rfl := Option.some.inj given; decide
    · obtain rfl := Option.some.inj given; decide
    · cases given
  | mysql =>
    simp only [Engine.dialect, mysql] at given
    split at given
    · obtain rfl := Option.some.inj given; exact sizeTier_ne_empty (.inl rfl) _
    · obtain rfl := Option.some.inj given; exact sizeTier_ne_empty (.inr rfl) _
    · obtain rfl := Option.some.inj given; decide
    · obtain rfl := Option.some.inj given; decide
    · cases given
  | sqlite => cases given

/-- Every engine has a name for every type that is given. -/
theorem mappedType_ne_empty (engine : Engine) {spec : ColumnSpec} (given : spec.type ≠ .named "") :
    engine.dialect.mappedType spec ≠ "" := by
  unfold mappedType
  cases own : engine.dialect.ownType spec with
  | some name => exact ownType_ne_empty engine own
  | none =>
    cases type : spec.type with
    | kind known => exact commonName_ne_empty known
    | named name =>
      have name_ne : name.toList ≠ [] := by
        simpa using fun empty : name = "" => given (by rw [type, empty])
      simpa using Text.upper_ne_nil name_ne

/-- The type fragment is empty for PostgreSQL's columns that number themselves, and for no
others. -/
theorem typeFragment_eq_empty_iff (engine : Engine) {spec : ColumnSpec} (given : spec.type ≠ .named "") :
    engine.dialect.typeFragment spec = "" ↔ engine = .postgres ∧ spec.autoIncrement.truthy = true := by
  have onlyPostgres : engine.dialect.autoIncrementIsType = true ↔ engine = .postgres := by
    cases engine <;> simp [Engine.dialect, postgres, mysql, sqlite]
  rw [← onlyPostgres, ← Bool.and_eq_true, typeFragment]
  split
  · simp_all
  · simp_all [mappedType_ne_empty]

/-! ## The fragments of a definition -/

theorem lengthClause_text (dialect : Dialect) (spec : ColumnSpec) (type : String) :
    ∃ length, dialect.lengthClause spec (.text type) = .ok length := by
  unfold lengthClause
  split
  · exact ⟨_, rfl⟩
  · split
    · rename_i noKey
      simp [Value.isKey] at noKey
    · split
      · exact ⟨_, rfl⟩
      · split
        · exact ⟨_, rfl⟩
        · split <;> exact ⟨_, rfl⟩

theorem keyTokens_texts (engine : Engine) (spec : ColumnSpec) (emitPrimaryKey : Bool) :
    Value.Texts (engine.dialect.keyTokens spec emitPrimaryKey) := by
  have keyword : Value.Texts [engine.dialect.autoIncrement] := by
    cases engine <;> exact .words [_]
  exact .ite ((keyword.ite.append (.words ["PRIMARY KEY"])).append keyword.ite)

theorem constraintTokens_texts (engine : Engine) (spec : ColumnSpec) (emitPrimaryKey : Bool) :
    Value.Texts (engine.dialect.constraintTokens spec emitPrimaryKey) := by
  have word (text : String) : Value.Texts [.text text] := .words [text]
  have default : Value.Texts (defaultTokens spec) := by
    unfold defaultTokens
    split
    · exact .words []
    · exact .words ["DEFAULT", _]
  exact (((((word "UNSIGNED").ite.append (keyTokens_texts engine spec emitPrimaryKey)).append
    (word "NOT NULL").ite).append (word "UNIQUE").ite).append (word "NULL").ite).append default

theorem quote_text (engine : Engine) (name : String) :
    engine.dialect.quote (.text name) = .text (engine.identifier (.text name)) := by
  cases engine <;> simp [Engine.identifier, Engine.dialect, quote, postgres, mysql, sqlite, Value.truthy,
    Value.display]

/-- A definition is joined from the fragments of a column. -/
theorem columnDefinition_joins (dialect : Dialect) (name : Value) (spec : ColumnSpec)
    (emitPrimaryKey : Bool) :
    (dialect.columnDefinition name spec emitPrimaryKey).result
      = dialect.joinFragments name (dialect.typeFragment spec) spec emitPrimaryKey := by
  unfold columnDefinition typeFragment
  split
  · rfl
  · rw [Noted.result_bind, typeName_result]
    rfl

/-- A column with a text name has a definition, which consists of four fragments. -/
theorem columnDefinition_result (engine : Engine) (name : String) (spec : ColumnSpec)
    (emitPrimaryKey : Bool) :
    ∃ length constraint,
      engine.dialect.lengthClause spec (.text (engine.dialect.typeFragment spec)) = .ok length
      ∧ engine.dialect.constraint spec emitPrimaryKey = .ok constraint
      ∧ (engine.dialect.columnDefinition (.text name) spec emitPrimaryKey).result
        = .ok (" ".intercalate [engine.identifier (.text name), engine.dialect.typeFragment spec,
            length, constraint]) := by
  obtain ⟨length, clause⟩ := lengthClause_text engine.dialect spec (engine.dialect.typeFragment spec)
  obtain ⟨constraint, listed⟩ : ∃ constraint, engine.dialect.constraint spec emitPrimaryKey = .ok constraint :=
    (constraintTokens_texts engine spec emitPrimaryKey).join " "
  refine ⟨length, constraint, clause, listed, ?_⟩
  rw [columnDefinition_joins, joinFragments, clause, listed, quote_text]
  exact Value.join_map_text " " [_, _, _, _]

/-! ## Columns with a type -/

theorem serial_mem_keyTokens_iff (spec : ColumnSpec) (emitPrimaryKey : Bool) :
    .text "SERIAL" ∈ postgres.keyTokens spec emitPrimaryKey ↔
      (spec.primaryKey.truthy = true ∧ emitPrimaryKey = true) ∧ spec.autoIncrement.truthy = true := by
  rw [keyTokens, ← Bool.and_eq_true]
  split
  · cases spec.autoIncrement.truthy <;> simp_all [postgres]
  · simp_all

end Dialect

namespace Engine

/-- The definition of a column has a type: the type fragment is not empty, or PostgreSQL's keyword
that implies a type is in the constraint. -/
def Types (engine : Engine) (spec : ColumnSpec) (emitPrimaryKey : Bool) : Prop :=
  engine.dialect.typeFragment spec ≠ ""
    ∨ engine = .postgres ∧ .text "SERIAL" ∈ engine.dialect.keyTokens spec emitPrimaryKey

/-- The definition of a column loses its type: PostgreSQL is given a column that numbers itself
and is not declared the primary key. -/
def LosesType (engine : Engine) (spec : ColumnSpec) (emitPrimaryKey : Bool) : Prop :=
  engine = .postgres ∧ spec.autoIncrement.truthy = true
    ∧ ¬ (spec.primaryKey.truthy = true ∧ emitPrimaryKey = true)

/-- A definition has a type unless it loses it. -/
theorem types_iff (engine : Engine) {spec : ColumnSpec} (given : spec.type ≠ .named "")
    (emitPrimaryKey : Bool) :
    engine.Types spec emitPrimaryKey ↔ ¬ engine.LosesType spec emitPrimaryKey := by
  rw [Types, LosesType, Ne, Dialect.typeFragment_eq_empty_iff engine given]
  by_cases onPostgres : engine = .postgres
  · subst onPostgres
    rw [show Engine.dialect .postgres = Dialect.postgres from rfl, Dialect.serial_mem_keyTokens_iff]
    by_cases numbered : spec.autoIncrement.truthy = true <;> simp [numbered]
  · simp [onPostgres]

/-- The columns of a table have definitions, one after the other. -/
theorem columnDefinitions_result (engine : Engine) (emitPrimaryKey : Bool)
    {columns : List (Value × ColumnSpec)} (named : ∀ column ∈ columns, ∃ name, column.1 = .text name) :
    ∃ definitions, (engine.columnDefinitions emitPrimaryKey columns).result = .ok definitions
      ∧ columns.map (fun column =>
          (engine.dialect.columnDefinition column.1 column.2 emitPrimaryKey).result)
        = definitions.map .ok := by
  induction columns with
  | nil => exact ⟨[], rfl, rfl⟩
  | cons column columns ih =>
    obtain ⟨name, spec⟩ := column
    obtain ⟨text, rfl⟩ : ∃ text, name = .text text := named _ List.mem_cons_self
    obtain ⟨_, _, -, -, first⟩ := Dialect.columnDefinition_result engine text spec emitPrimaryKey
    obtain ⟨definitions, rest, each⟩ := ih fun column inside => named column (List.mem_cons_of_mem _ inside)
    refine ⟨_ :: definitions, ?_, by rw [List.map_cons, List.map_cons, first, each]⟩
    rw [columnDefinitions, Noted.result_bind, first]
    show ((engine.columnDefinitions emitPrimaryKey columns >>= fun others => pure (_ :: others)) :
      Noted (List String)).result = _
    rw [Noted.result_bind, rest]
    rfl

theorem primaryKeyClause_ok (engine : Engine) {columns : List Value} (texts : Value.Texts columns) :
    ∃ clause, engine.primaryKeyClause columns = .ok clause := by
  have quoted : Value.Texts (columns.map engine.dialect.quote) := by
    intro value inside
    obtain ⟨column, listed, rfl⟩ := List.mem_map.1 inside
    obtain ⟨word, rfl⟩ := texts column listed
    exact ⟨_, Dialect.quote_text engine word⟩
  obtain ⟨names, joined⟩ := quoted.join ", "
  unfold primaryKeyClause identifiers Dialect.quoteAll
  rw [joined]
  split <;> exact ⟨_, rfl⟩

/-- The statement that creates a table is that of what was read. -/
theorem createTable_of_read {engine : Engine} {name options : Value} {table : Table}
    (read : (readTable name options).result = .ok table) :
    (engine.createTable name options).result = (engine.createTableStatement name table).result := by
  simp only [createTable, Noted.result_bind, read]
  rfl

/-- The statement that creates a table is made of the definitions of its columns and of the clause
for its primary key. -/
theorem createTable_eq (engine : Engine) {name options : Value} {table : Table}
    {definitions : List String} {clause : String}
    (read : (readTable name options).result = .ok table)
    (defined : (engine.columnDefinitions (table.primaryKey.length ≤ 1) table.columns).result
      = .ok definitions)
    (closed : engine.primaryKeyClause table.primaryKey = .ok clause) :
    (engine.createTable name options).result
      = .ok ("CREATE TABLE " ++ (if table.ifNotExists.truthy then "IF NOT EXISTS " else "")
          ++ engine.identifier name ++ " (" ++ commaSeparated definitions ++ clause ++ ")") := by
  rw [createTable_of_read read, createTableStatement, Noted.result_bind, defined, closed]
  rfl

/-- A table with text column names is created with the definitions of its columns, which declare
the primary key unless several columns share it. -/
theorem createTable_result (engine : Engine) {name options : Value} {table : Table}
    (read : (readTable name options).result = .ok table)
    (named : ∀ column ∈ table.columns, ∃ text, column.1 = .text text) :
    ∃ definitions clause,
      (engine.createTable name options).result
        = .ok ("CREATE TABLE " ++ (if table.ifNotExists.truthy then "IF NOT EXISTS " else "")
            ++ engine.identifier name ++ " (" ++ commaSeparated definitions ++ clause ++ ")")
      ∧ table.columns.map (fun column => (engine.dialect.columnDefinition column.1 column.2
            (table.primaryKey.length ≤ 1)).result) = definitions.map .ok := by
  have keys : Value.Texts table.primaryKey := by
    intro value inside
    obtain ⟨column, flagged, rfl⟩ := List.mem_map.1 inside
    exact named column (List.mem_filter.1 flagged).1
  obtain ⟨definitions, defined, each⟩ :=
    engine.columnDefinitions_result (table.primaryKey.length ≤ 1) named
  obtain ⟨clause, closed⟩ := engine.primaryKeyClause_ok keys
  exact ⟨definitions, clause, createTable_eq engine read defined closed, each⟩

/-- A column with a text name is added with its definition, which may declare the primary key. -/
theorem addColumn_result (engine : Engine) (table : Value) (column : String) {description : Value}
    {spec : ColumnSpec} (read : (readColumn description).result = .ok spec) :
    ∃ definition,
      (engine.addColumn table (.text column) description).result
        = .ok (engine.alterTable table ++ " ADD COLUMN " ++ definition)
      ∧ (engine.dialect.columnDefinition (.text column) spec true).result = .ok definition := by
  obtain ⟨_, _, -, -, defined⟩ := Dialect.columnDefinition_result engine column spec true
  refine ⟨_, ?_, defined⟩
  simp only [addColumn, Noted.result_bind, read]
  show Except.bind (engine.dialect.columnDefinition (.text column) spec true).result _ = _
  rw [defined]
  rfl

/-- **A column definition has a type unless PostgreSQL loses it**: any single definition, each
definition in the statement that creates a table, and the definition of an added column. -/
theorem column_definitions_typed_iff (engine : Engine) :
    (∀ (name : String) (spec : ColumnSpec) (emitPrimaryKey : Bool), spec.type ≠ .named "" →
      (∃ length constraint,
        engine.dialect.lengthClause spec (.text (engine.dialect.typeFragment spec)) = .ok length
        ∧ engine.dialect.constraint spec emitPrimaryKey = .ok constraint
        ∧ (engine.dialect.columnDefinition (.text name) spec emitPrimaryKey).result
          = .ok (" ".intercalate [engine.identifier (.text name), engine.dialect.typeFragment spec,
              length, constraint]))
      ∧ (engine.Types spec emitPrimaryKey ↔ ¬ engine.LosesType spec emitPrimaryKey))
    ∧ (∀ (name options : Value) (table : Table), (readTable name options).result = .ok table →
      (∀ column ∈ table.columns, (∃ text, column.1 = .text text) ∧ column.2.type ≠ .named "") →
      ∃ definitions clause,
        (engine.createTable name options).result
          = .ok ("CREATE TABLE " ++ (if table.ifNotExists.truthy then "IF NOT EXISTS " else "")
              ++ engine.identifier name ++ " (" ++ commaSeparated definitions ++ clause ++ ")")
        ∧ table.columns.map (fun column => (engine.dialect.columnDefinition column.1 column.2
              (table.primaryKey.length ≤ 1)).result) = definitions.map .ok
        ∧ ∀ column ∈ table.columns, engine.Types column.2 (table.primaryKey.length ≤ 1)
            ↔ ¬ engine.LosesType column.2 (table.primaryKey.length ≤ 1))
    ∧ (∀ (table description : Value) (column : String) (spec : ColumnSpec),
      (readColumn description).result = .ok spec → spec.type ≠ .named "" →
      ∃ definition,
        (engine.addColumn table (.text column) description).result
          = .ok (engine.alterTable table ++ " ADD COLUMN " ++ definition)
        ∧ (engine.dialect.columnDefinition (.text column) spec true).result = .ok definition
        ∧ (engine.Types spec true ↔ ¬ engine.LosesType spec true)) := by
  refine ⟨fun name spec emitPrimaryKey given => ?_, fun name options table read named => ?_,
    fun table description column spec read given => ?_⟩
  · exact ⟨Dialect.columnDefinition_result engine name spec emitPrimaryKey,
      types_iff engine given emitPrimaryKey⟩
  · obtain ⟨definitions, clause, created, each⟩ :=
      createTable_result engine read fun column listed => (named column listed).1
    exact ⟨definitions, clause, created, each,
      fun column listed => types_iff engine (named column listed).2 _⟩
  · obtain ⟨definition, added, defined⟩ := addColumn_result engine table column read
    exact ⟨definition, added, defined, types_iff engine given true⟩

/-- The usual key of a table: a column that numbers itself and is the primary key. -/
def numberedKey : ColumnSpec :=
  { ColumnSpec.ofType (.kind .integer) with primaryKey := .bool true, autoIncrement := .bool true }

/-- The table that has nothing but its usual key. -/
def keyedTable : Table := ⟨[(.text "id", numberedKey)], .bool false⟩

theorem column_definitions_typed_iff_numbered_key :
    Engine.Types .postgres numberedKey true
      ∧ (∃ definitions clause,
        (Engine.createTable .postgres (.text "t") keyedTable.toValue).result
          = .ok ("CREATE TABLE \"t\" (" ++ commaSeparated definitions ++ clause ++ ")"))
      ∧ ∃ definition,
        (Engine.addColumn .postgres (.text "t") (.text "id") (.spec numberedKey)).result
          = .ok ("ALTER TABLE \"t\" ADD COLUMN " ++ definition) := by
  have given : numberedKey.type ≠ .named "" := ColumnType.noConfusion
  have typed := ((column_definitions_typed_iff .postgres).1 "id" numberedKey true given).2
  have named : ∀ column ∈ keyedTable.columns,
      (∃ text, column.1 = .text text) ∧ column.2.type ≠ .named "" := by
    intro column inside
    obtain rfl := List.mem_singleton.1 inside
    exact ⟨⟨"id", rfl⟩, given⟩
  obtain ⟨definitions, clause, created, -⟩ :=
    (column_definitions_typed_iff .postgres).2.1 (.text "t") keyedTable.toValue keyedTable rfl named
  obtain ⟨definition, added, -⟩ :=
    (column_definitions_typed_iff .postgres).2.2 (.text "t") (.spec numberedKey) "id" _ rfl given
  refine ⟨typed.2 ?_, ⟨definitions, clause, created⟩, definition, added⟩
  simp [LosesType, numberedKey, Value.truthy]

/-- A column that numbers itself has no type where it is not the primary key, or shares it. -/
theorem numbering_column_loses_type :
    (Dialect.postgres.columnDefinition (.text "id")
        { numberedKey with primaryKey := .bool false } true).result = .ok "\"id\"   "
      ∧ ¬ Engine.Types .postgres { numberedKey with primaryKey := .bool false } true
      ∧ ¬ Engine.Types .postgres numberedKey false := by
  refine ⟨by cbv, ?_, ?_⟩
  · rw [types_iff .postgres ColumnType.noConfusion]
    simp [LosesType, numberedKey, Value.truthy]
  · rw [types_iff .postgres ColumnType.noConfusion]
    simp [LosesType, numberedKey, Value.truthy]

end Engine

end SchemaChange
