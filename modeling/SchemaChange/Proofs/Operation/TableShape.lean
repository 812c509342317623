/-
# SchemaChange.Proofs.Operation.TableShape — the shapes in which a table is described

The columns of a new table may be described by a map, by a map under the key `columns`, by a table
that has not been read yet, or by one that has (`Shape`).  All of them are read as one table, and so
are rewritten descriptions of the columns, so that one statement creates the table.

* `ofValue_shape` — every shape is read as the table that the columns describe.
* `run_createTable` — the step that creates a table submits its statement, and nothing else.
* `table_shape_does_not_matter` — both together, and a table that has been read is read again as
  it is.
-/
import SchemaChange.Proofs.Column.Described
import SchemaChange.Proofs.Dialect.ColumnType
import SchemaChange.Proofs.Session.Delivery

set_option autoImplicit false

namespace SchemaChange

open ColumnSpec (Describes Rewritten described)

namespace Table

/-- Columns by name, each described by a map, as entries of a map. -/
def bare (columns : List (String × Entries)) : Entries :=
  columns.map fun column => (.text column.1, .map column.2)

/-- The table that columns describe. -/
def ofDescribed (columns : List (String × Entries)) : Table where
  columns := columns.map fun column => (.text column.1, described column.2)
  ifNotExists := .bool false

/-- The shapes in which a table with these columns can be described. -/
inductive Shape (columns : List (String × Entries)) : Value → Prop
  | bare : Shape columns (.map (Table.bare columns))
  | underKey {entries : Entries} (held : entries.get? "columns" = some (.map (Table.bare columns)))
      (strict : mayExist entries = false) : Shape columns (.map entries)
  | unread : Shape columns (.table (Table.bare columns) (.bool false))
  | read {value : Value} {table : Table} (shape : Shape columns value)
      (result : (ofValue value).result = .ok table) : Shape columns table.toValue

/-- Columns that have the same names and the same descriptions, up to how these are written. -/
def Alike : List (String × Entries) → List (String × Entries) → Prop :=
  List.Forall₂ fun column other => column.1 = other.1 ∧ Rewritten column.2 other.2

variable {columns others : List (String × Entries)} {options : Value}

theorem Alike.refl (columns : List (String × Entries)) : Alike columns columns :=
  List.forall₂_same.2 fun column _ => ⟨rfl, .refl column.2⟩

/-! ## Reading the shapes -/

/-- Columns that are written otherwise are read as the columns that they were. -/
theorem readColumns_bare (describe : ∀ column ∈ columns, Describes column.2)
    (alike : Alike columns others) :
    (readColumns (bare others)).result = .ok (ofDescribed columns).columns := by
  induction alike with
  | nil => rfl
  | @cons column other rest more same alike ih =>
      obtain ⟨name, entries⟩ := column
      obtain ⟨otherName, written⟩ := other
      obtain ⟨rfl, rewritten⟩ : name = otherName ∧ Rewritten entries written := same
      obtain ⟨describes, describe⟩ := List.forall_mem_cons.1 describe
      have first : (ColumnSpec.ofValue (.map written)).result = .ok (described entries) :=
        ColumnSpec.ofEntries_rewritten describes rewritten
      show (readColumns ((.text name, .map written) :: bare more)).result = _
      rw [readColumns, Noted.result_bind, first]
      show (readColumns (bare more) >>= _ : Noted _).result = _
      rw [Noted.result_bind, ih describe]
      rfl

theorem Alike.names (alike : Alike columns others) :
    others.map Prod.fst = columns.map Prod.fst := by
  induction alike with
  | nil => rfl
  | cons same _ ih => rw [List.map_cons, List.map_cons, ih, same.1]

theorem get?_bare_eq_none (unnamed : "columns" ∉ columns.map Prod.fst) :
    (bare columns).get? "columns" = none := by
  have named : bare columns
      = Entries.named (columns.map fun column => (column.1, .map column.2)) := by
    rw [bare, Entries.named, List.map_map]
    rfl
  rw [named, Entries.get?_named, List.lookup_eq_none_iff]
  intro entry member
  obtain ⟨column, inside, rfl⟩ := List.mem_map.1 member
  have apart : "columns" ≠ column.1 := fun same =>
    unnamed (same ▸ List.mem_map_of_mem (f := Prod.fst) inside)
  simpa using apart

/-- **Every shape is read as the table that the columns describe.** -/
theorem ofValue_shape (unnamed : "columns" ∉ columns.map Prod.fst)
    (describe : ∀ column ∈ columns, Describes column.2) (alike : Alike columns others)
    (shape : Shape others options) : (ofValue options).result = .ok (ofDescribed columns) := by
  have columnsRead := readColumns_bare describe alike
  induction shape with
  | bare =>
      have bareNames : (Table.bare others).get? "columns" = none :=
        get?_bare_eq_none (alike.names ▸ unnamed)
      show (ofEntries (Table.bare others)).result = _
      rw [ofEntries, bareNames]
      show (readColumns (Table.bare others) >>= _ : Noted _).result = _
      rw [Noted.result_bind, columnsRead]
      rfl
  | @underKey entries held strict =>
      show (ofEntries entries).result = _
      rw [ofEntries, held, strict]
      show (readColumns (Table.bare others) >>= _ : Noted _).result = _
      rw [Noted.result_bind, columnsRead]
      rfl
  | unread =>
      show (readColumns (Table.bare others) >>= _ : Noted _).result = _
      rw [Noted.result_bind, columnsRead]
      rfl
  | read shape result ih =>
      obtain rfl := Except.ok.inj (result.symm.trans ih)
      exact ofValue_toValue _

end Table

/-! ## Creating the table -/

namespace Session

theorem perform_run (text : String) : perform (Script.run text) = submit (.text text) .null :=
  Act.bind_pure (submit (.text text) .null)

/-- **The step that creates a table submits its statement**, after the notes that reading it left. -/
theorem run_createTable {name options : Value} {statement : String} (now : Timestamp)
    (session : Session)
    (rendered : (session.engine.createTable name options).result = .ok statement) :
    (step now (.operation (.createTable name options))).run session =
      ⟨((submit (.text statement) .null).run session).result,
        (session.engine.createTable name options).notes.flatMap session.logging.note
          ++ ((submit (.text statement) .null).run session).events,
        ((submit (.text statement) .null).run session).state⟩ := by
  have plan : (Operation.single (session.engine.createTable name options)).result
      = .ok [statement] := by
    rw [Operation.single, Noted.result_bind, rendered]
    rfl
  have notes : (Operation.single (session.engine.createTable name options)).notes
      = (session.engine.createTable name options).notes := by
    rw [Operation.single, Noted.notes_bind_ok rendered]
    exact List.append_nil _
  rw [run_step_operation, Operation.script_eq_statements rfl, Script.ofStatements_of_ok plan,
    run_perform_notes, notes]
  have alone : perform (Script.runAll [statement]) = submit (.text statement) .null :=
    perform_run statement
  rw [alone]

end Session

namespace Engine

open Table (Shape Alike)

/-- A table with text column names can be created. -/
theorem createTableStatement_ok (engine : Engine) (name : Value) {table : Table}
    (texts : ∀ column ∈ table.columns, ∃ text, column.1 = .text text) :
    ∃ statement, (engine.createTableStatement name table).result = .ok statement := by
  have itself : (readTable name table.toValue).result = .ok table :=
    readTable_eq_ok_iff.2 table.ofValue_toValue
  obtain ⟨definitions, clause, created, -⟩ := engine.createTable_result itself texts
  exact ⟨_, (createTable_of_read itself).symm.trans created⟩

/-- **The shape in which a table is described does not matter**: all shapes of the same columns,
however these are written, are read as one table and submitted as one statement; and a table that
has been read is read again as it is. -/
theorem table_shape_does_not_matter :
    (∀ (engine : Engine) (name : Value) (columns : List (String × Entries)),
      "columns" ∉ columns.map Prod.fst → (∀ column ∈ columns, Describes column.2) →
      ∃ (table : Table) (statement : String), ∀ others options, Alike columns others →
        Shape others options →
        (Table.ofValue options).result = .ok table
        ∧ (engine.createTable name options).result = .ok statement
        ∧ ∀ (now : Timestamp) (session : Session), session.engine = engine → ∃ notes : List Note,
            (Session.step now (.operation (.createTable name options))).run session =
              ⟨((Session.submit (.text statement) .null).run session).result,
                notes.flatMap session.logging.note
                  ++ ((Session.submit (.text statement) .null).run session).events,
                ((Session.submit (.text statement) .null).run session).state⟩)
    ∧ ∀ (options : Value) (table : Table), (Table.ofValue options).result = .ok table →
        (Table.ofValue table.toValue).result = .ok table := by
  refine ⟨fun engine name columns unnamed describe => ?_, fun _ table _ => table.ofValue_toValue⟩
  have texts : ∀ column ∈ (Table.ofDescribed columns).columns, ∃ text, column.1 = .text text := by
    intro column member
    obtain ⟨own, -, rfl⟩ := List.mem_map.1 member
    exact ⟨own.1, rfl⟩
  obtain ⟨statement, created⟩ := engine.createTableStatement_ok name texts
  refine ⟨Table.ofDescribed columns, statement, fun others options alike shape => ?_⟩
  have read := Table.ofValue_shape unnamed describe alike shape
  have rendered : (engine.createTable name options).result = .ok statement :=
    (createTable_of_read (readTable_eq_ok_iff.2 read)).trans created
  refine ⟨read, rendered, fun now session same => ?_⟩
  subst same
  exact ⟨_, Session.run_createTable now session rendered⟩

/-- The description of a column that numbers itself. -/
def numbered : Entries :=
  [(.text "type", .text "integer"), (.text "primaryKey", .bool true),
   (.text "autoIncrement", .bool true)]

/-- The same description, with attributes in another order and spelling, and with a comment. -/
def renumbered : Entries :=
  [(.text "comment", .text "key"), (.text "autoIncrement", .bool true),
   (.text "primary_key", .bool true), (.text "type", .text "integer")]

theorem numbered_describes : Describes numbered where
  typed := ⟨.text "integer", List.mem_cons_self⟩
  distinct := by decide
  spelled_once := by
    intro field different given
    cases field <;> simp_all [numbered, Entries.keys, Attribute.name, Attribute.camelName]

theorem numbered_rewritten : Rewritten numbered renumbered := by
  have spelled := Rewritten.respelled [(.text "type", .text "integer")]
    [(.text "autoIncrement", .bool true)] .primaryKey (.bool true)
  have reordered : Rewritten ([(.text "type", .text "integer")]
      ++ (.text Attribute.primaryKey.name, .bool true) :: [(.text "autoIncrement", .bool true)])
      [(.text "autoIncrement", .bool true), (.text "primary_key", .bool true),
       (.text "type", .text "integer")] := .permuted (List.reverse_perm _).symm
  have commented : Rewritten
      [(.text "autoIncrement", .bool true), (.text "primary_key", .bool true),
       (.text "type", .text "integer")] renumbered := by
    refine .extended _ (.text "key") fun field => ?_
    cases field <;> simp [Attribute.name, Attribute.camelName]
  exact spelled.trans (reordered.trans commented)

/-- A map of columns and a map with a rewritten one under `columns` create the same table. -/
theorem table_shape_does_not_matter_numbered : ∃ statement,
    (createTable .postgres (.text "t") (.map (Table.bare [("id", numbered)]))).result = .ok statement
    ∧ (createTable .postgres (.text "t")
        (.map [(.text "columns", .map (Table.bare [("id", renumbered)]))])).result = .ok statement
    ∧ (Table.ofValue (Table.ofDescribed [("id", numbered)]).toValue).result
        = .ok (Table.ofDescribed [("id", numbered)]) := by
  have unnamed : "columns" ∉ [("id", numbered)].map Prod.fst := by decide
  have describe : ∀ column ∈ [("id", numbered)], Describes column.2 := by
    intro column member
    obtain rfl := List.mem_singleton.1 member
    exact numbered_describes
  have alike : Alike [("id", numbered)] [("id", renumbered)] :=
    .cons ⟨rfl, numbered_rewritten⟩ .nil
  obtain ⟨table, statement, same⟩ :=
    table_shape_does_not_matter.1 .postgres (.text "t") [("id", numbered)] unnamed describe
  have underKey : Shape [("id", renumbered)]
      (.map [(.text "columns", .map (Table.bare [("id", renumbered)]))]) := .underKey rfl rfl
  obtain ⟨read, plain, -⟩ := same _ _ (.refl _) .bare
  obtain ⟨-, nested, -⟩ := same _ _ alike underKey
  obtain rfl := Except.ok.inj (read.symm.trans (Table.ofValue_shape unnamed describe (.refl _) .bare))
  exact ⟨statement, plain, nested, table_shape_does_not_matter.2 _ _ read⟩

end Engine

end SchemaChange
