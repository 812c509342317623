/-
# SchemaChange.Proofs.Operation.Reading — how the reading of a description ends

A description may be a value of any kind.  Reading it ends in one of three ways (`Reading`): it is
understood; it is refused, and the refusal becomes a report about the argument; or an operation is
missed that only maps have, which is no refusal of the argument and is not reported as one.  How
it ends can be told from the value (`ColumnSpec.reading`, `Table.reading`).

* `readColumn_ends`, `readTable_ends` — the reading of a column and of a table ends as told.
* `rendering_ends` — so does the rendering of a change that is given a description, since nothing
  fails behind the reading.
-/
import SchemaChange.Proofs.Dialect.ColumnType
import SchemaChange.Proofs.Operation.Statements

set_option autoImplicit false

namespace SchemaChange

/-- A failure is a report about an argument. -/
def Failure.IsValidation (failure : Failure) : Prop :=
  ∃ message fieldName fieldValue, failure = .report (.validation message fieldName fieldValue)

/-- How the reading of a description ends. -/
inductive Reading where
  | understood
  | refused
  /-- with an operation that the value does not have -/
  | missed
  deriving DecidableEq, Repr

namespace Reading

variable {α β : Type} {refusal : Failure → Prop} {reading other : Reading} {attempt : Attempt α}

/-- An attempt ends as a reading does, where refusals are failures of a kind. -/
inductive Ends (refusal : Failure → Prop) {α : Type} : Reading → Attempt α → Prop
  | understood (a : α) : Ends refusal .understood (.ok a)
  | refused {failure : Failure} (refuses : refusal failure) :
      Ends refusal .refused (.error failure)
  | missed : Ends refusal .missed (.error (.misuse .missingOperation))

/-- One reading after another, which comes to pass only if the first one is understood. -/
def andThen : Reading → Reading → Reading
  | .understood, other => other
  | reading, _ => reading

theorem Ends.bind {next : α → Attempt β} (first : reading.Ends refusal attempt)
    (rest : ∀ a, attempt = .ok a → other.Ends refusal (next a)) :
    (reading.andThen other).Ends refusal (attempt.bind next) := by
  cases first with
  | understood a => exact rest a rfl
  | refused refuses => exact .refused refuses
  | missed => exact .missed

/-- What succeeds and fails with an attempt ends as that does. -/
theorem Ends.through {whole : Attempt β} (ends : reading.Ends refusal attempt)
    (succeeds : ∀ a, attempt = .ok a → ∃ b, whole = .ok b)
    (fails : ∀ failure, attempt = .error failure → whole = .error failure) :
    reading.Ends refusal whole := by
  cases ends with
  | understood a =>
      obtain ⟨b, rfl⟩ := succeeds a rfl
      exact .understood b
  | refused refuses =>
      obtain rfl := fails _ rfl
      exact .refused refuses
  | missed =>
      obtain rfl := fails _ rfl
      exact .missed

/-- What always succeeds changes nothing about how an attempt ends. -/
theorem Ends.bind_ok {next : α → Attempt β} (first : reading.Ends refusal attempt)
    (rest : ∀ a, attempt = .ok a → ∃ b, next a = .ok b) :
    reading.Ends refusal (attempt.bind next) := by
  refine first.through ?_ ?_
  · rintro a rfl
    exact rest a rfl
  · rintro failure rfl
    rfl

/-- Faults of the argument are refusals, and are explained by reports. -/
theorem Ends.explaining {explain : Failure → Failure}
    (ends : reading.Ends (·.isArgumentFault = true) attempt)
    (explains : ∀ failure, refusal (explain failure)) :
    reading.Ends refusal (attempt.explaining explain) := by
  cases ends with
  | understood a => exact .understood a
  | @refused failure fault =>
      rw [Attempt.explaining, if_pos fault]
      exact .refused (explains failure)
  | missed => exact .missed

end Reading

/-! ## Columns -/

namespace ColumnSpec

/-- Whether entries give the type of a column. -/
def givesType (entries : Entries) : Bool :=
  entries.any fun entry => Attribute.ofKey? entry.1 == some .type

/-- How the description of a column is read. -/
def reading : Value → Reading
  | .spec _ | .text _ | .kind _ => .understood
  | .map entries => if givesType entries then .understood else .refused
  | _ => .missed

theorem isSome_extend (entries : Entries) (draft : Draft) :
    (draft.extend entries .type).isSome = ((draft .type).isSome || givesType entries) := by
  induction entries generalizing draft with
  | nil => simp [Draft.extend, givesType]
  | cons entry rest ih =>
      obtain ⟨key, value⟩ := entry
      have more : givesType ((key, value) :: rest) =
          (Attribute.ofKey? key == some .type || givesType rest) := rfl
      rw [more, Draft.extend]
      cases spelled : Attribute.ofKey? key with
      | none => exact ih draft
      | some field =>
          rw [ih]
          cases field <;> simp [Draft.set] <;> rfl

theorem isSome_draft (entries : Entries) : (draft entries .type).isSome = givesType entries := by
  rw [draft, isSome_extend]
  rfl

/-- A column is read as its description tells. -/
theorem ofValue_ends (value : Value) :
    (reading value).Ends (·.isArgumentFault = true) (ofValue value).result := by
  cases value with
  | spec attributes => exact .understood _
  | text text => exact .understood _
  | kind kind => exact .understood _
  | map entries =>
      show Reading.Ends _ (if givesType entries then .understood else .refused)
        (ofEntries entries).result
      rw [← isSome_draft, ofEntries]
      cases draft entries .type with
      | none => exact .refused rfl
      | some type => exact .understood _
  | _ => exact .missed

end ColumnSpec

/-! ## Tables -/

namespace Table

/-- How columns are read one after the other. -/
def columnsReading : Entries → Reading
  | [] => .understood
  | (_, description) :: rest => (ColumnSpec.reading description).andThen (columnsReading rest)

/-- The entries that list the columns of a table. -/
def listed : Value → Entries
  | .table columns _ => columns
  | .map entries =>
    match Entries.get? entries "columns" with
    | none => entries
    | some (.map columns) => columns
    | some _ => []
  | _ => []

/-- How the description of a table is read.  What is no map is searched for the columns first, which
is refused where nothing can be searched and where something is found. -/
def reading : Value → Reading
  | .table columns _ => columnsReading columns
  | .map entries =>
    match Entries.get? entries "columns" with
    | none => columnsReading entries
    | some (.map columns) => columnsReading columns
    | some _ => .missed
  | .text text => if Text.occurs "columns".toList text.toList then .refused else .missed
  | .list items => if items.any (·.text? == some "columns") then .refused else .missed
  | .kind _ => .missed
  | _ => .refused

theorem readColumns_ends (columns : Entries) :
    (columnsReading columns).Ends (·.isArgumentFault = true) (readColumns columns).result := by
  induction columns with
  | nil => exact .understood []
  | cons column rest ih =>
      obtain ⟨name, description⟩ := column
      rw [readColumns, Noted.result_bind]
      refine (ColumnSpec.ofValue_ends description).bind fun spec _ => ?_
      rw [Noted.result_bind]
      exact ih.bind_ok fun others _ => ⟨(name, spec) :: others, rfl⟩

/-- What was read of a column and of those after it. -/
theorem readColumns_cons_eq_ok {name description : Value} {rest : Entries}
    {columns : List (Value × ColumnSpec)}
    (read : (readColumns ((name, description) :: rest)).result = .ok columns) :
    ∃ spec others, (ColumnSpec.ofValue description).result = .ok spec ∧
      (readColumns rest).result = .ok others ∧ columns = (name, spec) :: others := by
  obtain ⟨spec, readFirst, read⟩ := Noted.result_bind_eq_ok read
  obtain ⟨others, readRest, same⟩ := Noted.result_bind_eq_ok read
  cases same
  exact ⟨spec, others, readFirst, readRest, rfl⟩

/-- Columns are read under their names. -/
theorem readColumns_names {entries : Entries} {columns : List (Value × ColumnSpec)}
    (read : (readColumns entries).result = .ok columns) : columns.map Prod.fst = entries.keys := by
  induction entries generalizing columns with
  | nil =>
      cases read
      rfl
  | cons entry rest ih =>
      obtain ⟨name, description⟩ := entry
      obtain ⟨spec, others, -, readRest, rfl⟩ := readColumns_cons_eq_ok read
      exact congrArg (name :: ·) (ih readRest)

/-- Each column is read from a description that is listed. -/
theorem readColumns_mem {entries : Entries} {columns : List (Value × ColumnSpec)}
    (read : (readColumns entries).result = .ok columns) {column : Value × ColumnSpec}
    (member : column ∈ columns) :
    ∃ description, (column.1, description) ∈ entries ∧
      (ColumnSpec.ofValue description).result = .ok column.2 := by
  induction entries generalizing columns with
  | nil =>
      cases read
      cases member
  | cons entry rest ih =>
      obtain ⟨name, description⟩ := entry
      obtain ⟨spec, others, readFirst, readRest, rfl⟩ := readColumns_cons_eq_ok read
      rcases List.mem_cons.1 member with rfl | later
      · exact ⟨description, List.mem_cons_self, readFirst⟩
      · obtain ⟨description, listed, readIt⟩ := ih readRest later
        exact ⟨description, List.mem_cons_of_mem _ listed, readIt⟩

/-- Columns that are read make a table. -/
theorem withColumns_ends (columns : Entries) (ifNotExists : Value) :
    (columnsReading columns).Ends (·.isArgumentFault = true)
      (readColumns columns >>= fun read => pure (⟨read, ifNotExists⟩ : Table) : Noted Table).result := by
  rw [Noted.result_bind]
  exact (readColumns_ends columns).bind_ok fun read _ => ⟨_, rfl⟩

/-- What is no map is searched for its columns, and has no entries to read. -/
theorem ofValue_search (value : Value) {found : Bool} {failure : Failure}
    (searched : value.has "columns" = .ok found) (indexed : value.index "columns" = .error failure)
    (noMap : ∀ entries, value ≠ .map entries) :
    (ofValue value).result = .error (if found then failure else .misuse .missingOperation) := by
  have whole : ofValue value = (do
      if ← value.has "columns" then
        let _ ← value.index "columns"
      Noted.ofAttempt (.misuse .missingOperation)) := by
    cases value with
    | table columns ifNotExists => cases searched
    | map entries => exact absurd rfl (noMap entries)
    | _ => rfl
  rw [whole, searched, indexed]
  cases found <;> rfl

/-- A search that finds the columns is refused. -/
theorem search_ends {found : Bool} {failure : Failure} (fault : failure.isArgumentFault = true) :
    (if found then .refused else .missed : Reading).Ends (·.isArgumentFault = true)
      (.error (if found then failure else .misuse .missingOperation) : Attempt Table) := by
  cases found with
  | true => exact .refused fault
  | false => exact .missed

/-- A table is read as its description tells. -/
theorem ofValue_ends (value : Value) :
    (reading value).Ends (·.isArgumentFault = true) (ofValue value).result := by
  cases value with
  | table columns ifNotExists => exact withColumns_ends columns ifNotExists
  | map entries =>
      show (reading (.map entries)).Ends _ (ofEntries entries).result
      rw [reading, ofEntries]
      cases Entries.get? entries "columns" with
      | none => exact withColumns_ends entries _
      | some columns =>
          cases columns with
          | map columns => exact withColumns_ends columns _
          | _ => exact .missed
  | text text =>
      rw [ofValue_search (.text text) rfl rfl nofun]
      exact search_ends rfl
  | list items =>
      rw [ofValue_search (.list items) rfl rfl nofun]
      exact search_ends rfl
  | kind kind =>
      have absent : (Value.kind kind).has "columns" = .ok false := by cases kind <;> rfl
      rw [ofValue_search (.kind kind) absent rfl nofun]
      exact .missed
  | _ => exact .refused rfl

/-- The columns of a table that is read are those that are listed. -/
theorem ofValue_columns {value : Value} {table : Table} (read : (ofValue value).result = .ok table) :
    (readColumns (listed value)).result = .ok table.columns := by
  have whole {columns : Entries} {ifNotExists : Value}
      (read : (readColumns columns >>= fun read => pure (⟨read, ifNotExists⟩ : Table) :
        Noted Table).result = .ok table) : (readColumns columns).result = .ok table.columns := by
    obtain ⟨found, readAll, same⟩ := Noted.result_bind_eq_ok read
    cases same
    exact readAll
  cases value with
  | table columns ifNotExists => exact whole read
  | map entries =>
      change (ofEntries entries).result = _ at read
      rw [ofEntries] at read
      rw [listed]
      cases columns : Entries.get? entries "columns" with
      | none =>
          rw [columns] at read
          exact whole read
      | some description =>
          rw [columns] at read
          cases description with
          | map nested => exact whole read
          | _ => cases read
  | text text =>
      rw [ofValue_search (.text text) rfl rfl nofun] at read
      cases read
  | list items =>
      rw [ofValue_search (.list items) rfl rfl nofun] at read
      cases read
  | kind kind =>
      have absent : (Value.kind kind).has "columns" = .ok false := by cases kind <;> rfl
      rw [ofValue_search (.kind kind) absent rfl nofun] at read
      cases read
  | _ => cases read

/-- So they have the names that are listed. -/
theorem ofValue_names {value : Value} {table : Table} (read : (ofValue value).result = .ok table) :
    table.columns.map Prod.fst = (listed value).keys :=
  readColumns_names (ofValue_columns read)

end Table

/-! ## The changes that are given a description -/

namespace Engine

theorem readColumn_ends (spec : Value) :
    (ColumnSpec.reading spec).Ends Failure.IsValidation (readColumn spec).result :=
  (ColumnSpec.ofValue_ends spec).explaining fun _ => ⟨_, _, _, rfl⟩

theorem readTable_ends (name options : Value) :
    (Table.reading options).Ends Failure.IsValidation (readTable name options).result :=
  (Table.ofValue_ends options).explaining fun _ => ⟨_, _, _, rfl⟩

end Engine

namespace Operation

/-- An operation of an engine is given a description, and texts as names; how the description is
read. -/
inductive Reads (engine : Engine) : Operation → Value → Reading → Prop
  | addColumn (table column : String) (spec : Value) :
      Reads engine (.addColumn (.text table) (.text column) spec) spec (ColumnSpec.reading spec)
  | changeColumn (able : engine ≠ .sqlite) (table column : String) (spec : Value) :
      Reads engine (.changeColumn (.text table) (.text column) spec) spec (ColumnSpec.reading spec)
  | createTable (table : String) (options : Value)
      (named : Value.Texts (Table.listed options).keys) :
      Reads engine (.createTable (.text table) options) options (Table.reading options)

variable {engine : Engine} {operation : Operation} {description : Value} {reading : Reading}

theorem single_ends {rendering : Noted String} (ends : reading.Ends Failure.IsValidation rendering.result) :
    reading.Ends Failure.IsValidation (single rendering).result := by
  rw [single, Noted.result_bind]
  exact ends.bind_ok fun statement _ => ⟨[statement], rfl⟩

/-- **A change is rendered as its description is read.** -/
theorem rendering_ends (reads : operation.Reads engine description reading) :
    ∃ rendering, operation.statements? engine = some rendering ∧
      reading.Ends Failure.IsValidation rendering.result := by
  cases reads with
  | addColumn table column =>
      refine ⟨_, rfl, single_ends ((Engine.readColumn_ends description).through ?_ ?_)⟩
      · intro read same
        obtain ⟨definition, added, -⟩ := engine.addColumn_result (.text table) column same
        exact ⟨_, added⟩
      · intro failure same
        simp only [Engine.addColumn, Noted.result_bind, same]
        rfl
  | changeColumn able table column =>
      refine ⟨_, rfl, (Engine.readColumn_ends description).through ?_ ?_⟩
      · intro read same
        cases engine with
        | sqlite => exact absurd rfl able
        | postgres =>
            refine ⟨Engine.changePlan .postgres (.text table) (.text column) read, ?_⟩
            rw [Engine.changeColumn, Noted.result_bind, same]
            rfl
        | mysql =>
            obtain ⟨_, _, -, -, defined⟩ :=
              Dialect.columnDefinition_result .mysql column read false
            rw [Engine.changeColumn, Noted.result_bind, same]
            simp only [Engine.redefineColumn, Except.bind, Noted.result_bind, defined]
            exact ⟨_, rfl⟩
      · intro failure same
        cases engine with
        | sqlite => exact absurd rfl able
        | postgres =>
            rw [Engine.changeColumn, Noted.result_bind, same]
            rfl
        | mysql =>
            rw [Engine.changeColumn, Noted.result_bind, same]
            rfl
  | createTable table _ named =>
      refine ⟨_, rfl, single_ends ((Engine.readTable_ends (.text table) description).through ?_ ?_)⟩
      · intro read same
        have texts : ∀ column ∈ read.columns, ∃ text, column.1 = .text text := by
          intro column member
          refine named column.1 ?_
          rw [← Table.ofValue_names (Engine.readTable_eq_ok_iff.1 same)]
          exact List.mem_map_of_mem member
        obtain ⟨definitions, clause, created, -⟩ := engine.createTable_result same texts
        exact ⟨_, created⟩
      · intro failure same
        simp only [Engine.createTable, Noted.result_bind, same]
        rfl

end Operation

end SchemaChange
