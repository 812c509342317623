/-
# SchemaChange.Proofs.Session.ReadFirst — operations that read before they write

Two operations look before they write: the migrations table is created unless the catalog
lists it, and MySQL renames a column by the type that it finds.  `ReadFirst` says of the
statements of such an operation what the reads decide: there is a write exactly if
everything that is read can be understood and the deciding read asks for one; the write is
the only one and the last statement; and a read that fails is the last statement too.

* `create_reads_first`, `rename_reads_first` — the two operations read first.
* `created_at_most_once` — where the catalog lists what has been created, the migrations
  table is created at most once over any bookkeeping.
* `writes_follow_reads` — all of it, over any open connection.
-/
import SchemaChange.Proofs.Session.Dispatched
import SchemaChange.Proofs.Session.DryRun
import SchemaChange.Proofs.Statement.Beginning

set_option autoImplicit false

namespace SchemaChange

open SchemaChange.Statement (Row)

/-- Whether an operation keeps the records of migrations. -/
def Operation.isBookkeeping : Operation → Bool
  | .createMigrationsTable | .addMigrationRecord _ | .loadedMigrations => true
  | _ => false

/-! ## Reads and writes -/

namespace Dispatched

/-- Whether a statement creates a table. -/
def createsTable (sent : Dispatched) : Bool :=
  begins "CREATE TABLE" sent.sql

/-- Whether a statement alters a table. -/
def altersTable (sent : Dispatched) : Bool :=
  begins "ALTER TABLE" sent.sql

/-- Whether a statement created a table. -/
def created (sent : Dispatched) : Bool :=
  sent.createsTable && sent.isAccepted

/-- A statement is what an engine makes of a template, with some values. -/
def Asks (engine : Engine) (template : String) (values : List Value) (sent : Dispatched) : Prop :=
  sent.sql = engine.parameterized template ∧ sent.values = some values

/-- A statement looks into the catalog for the migrations table. -/
def AsksCatalog (engine : Engine) : Dispatched → Prop :=
  Asks engine engine.catalogQuery [.text migrationsTable]

/-- A statement looks for the type of a column. -/
def AsksColumnType (engine : Engine) (table column : Value) : Dispatched → Prop :=
  Asks engine Engine.columnTypeQuery [table, column]

/-- What is read by a statement: its rows, unless they are to report a version and cannot be
understood as one. -/
def decoded (sent : Dispatched) : Attempt (List Row) := do
  let rows ← sent.rows
  if sent.sql = Engine.versionQuery then
    let _ ← Engine.reportedVersion rows
    pure rows
  else pure rows

theorem decoded_of_rows_error {sent : Dispatched} {failure : Failure}
    (failed : sent.rows = .error failure) : sent.decoded = .error failure := by
  rw [decoded, failed]
  rfl

theorem decoded_eq_rows {sent : Dispatched} (other : sent.sql ≠ Engine.versionQuery) :
    sent.decoded = sent.rows := by
  rw [decoded]
  simp only [other, if_false]
  cases sent.rows <;> rfl

/-- What opens like a query of the catalog neither writes nor asks for a version. -/
theorem query_reads {sent : Dispatched} (opens : Opens 'S' sent.sql) :
    sent.createsTable = false ∧ sent.altersTable = false ∧ sent.sql ≠ Engine.versionQuery := by
  refine ⟨opens.not_begins ⟨_, String.toList_ofList⟩ (by decide : 'C' ≠ 'S'),
    opens.not_begins ⟨_, String.toList_ofList⟩ (by decide : 'A' ≠ 'S'), ?_⟩
  intro same
  rw [same] at opens
  exact absurd (opens.unique Engine.versionQuery_opens) (by decide)

theorem Asks.opens {engine : Engine} {template : String} {values : List Value} {sent : Dispatched}
    (asks : sent.Asks engine template values) (opens : Opens 'S' template) : Opens 'S' sent.sql := by
  rw [asks.1]
  exact opens.parameterized Engine.kept_S engine

/-- A report of a version is understood if the version is. -/
theorem decoded_version {sent : Dispatched} {rows : List Row} (asks : sent.sql = Engine.versionQuery)
    (answered : sent.rows = .ok rows) :
    sent.decoded = (Engine.reportedVersion rows).map fun _ => rows := by
  rw [decoded, answered]
  show (if sent.sql = Engine.versionQuery then _ else _) = _
  rw [if_pos asks]
  cases Engine.reportedVersion rows <;> rfl

end Dispatched

/-- What the statements of an operation that reads before it writes are like.  `writes` tells the
writes among them, `decides` the read that decides, and `wanted` for which rows there is a
write. -/
structure ReadFirst (writes : Dispatched → Bool) (decides : Dispatched → Prop)
    (wanted : List Row → Prop) (sent : List Dispatched) (result : Attempt Value) : Prop where
  /-- there is a write exactly if all that is read is understood and the deciding read wants one -/
  writes_iff : (∃ write ∈ sent, writes write = true) ↔
    (∀ read ∈ sent, writes read = false → ∃ rows, read.decoded = .ok rows) ∧
      ∃ read ∈ sent, decides read ∧ ∃ rows, read.decoded = .ok rows ∧ wanted rows
  /-- the write is the only one and the last statement, and answers for the operation -/
  write_last : ∀ write ∈ sent, writes write = true →
    result = write.answer ∧
      ∃ reads, sent = reads ++ [write] ∧ ∀ read ∈ reads, writes read = false
  /-- a read that fails is the last statement, and fails the operation -/
  failed_last : ∀ read ∈ sent, writes read = false → ∀ failure, read.decoded = .error failure →
    result = .error failure ∧ ∃ earlier, sent = earlier ++ [read]
  /-- the deciding read is made unless another one fails before -/
  decided : (∀ read ∈ sent, writes read = false → ∃ rows, read.decoded = .ok rows) →
    ∃ read ∈ sent, decides read

namespace ReadFirst

variable {writes : Dispatched → Bool} {decides : Dispatched → Prop} {wanted : List Row → Prop}
  {sent : List Dispatched} {result : Attempt Value} {read write : Dispatched} {rows : List Row}

/-- A read fails. -/
theorem failed {failure : Failure} (reads : writes read = false)
    (failed : read.decoded = .error failure) :
    ReadFirst writes decides wanted [read] (.error failure) := by
  constructor <;> simp [reads, failed]

/-- The deciding read does not ask for a write. -/
theorem declined (reads : writes read = false) (asks : decides read)
    (understood : read.decoded = .ok rows) (unwanted : ¬ wanted rows) (result : Attempt Value) :
    ReadFirst writes decides wanted [read] result := by
  constructor <;> simp [reads, understood, asks, unwanted]

/-- The deciding read asks for a write. -/
theorem written (reads : writes read = false) (asks : decides read)
    (understood : read.decoded = .ok rows) (wants : wanted rows) (wrote : writes write = true) :
    ReadFirst writes decides wanted [read, write] write.answer where
  writes_iff := by simp [reads, understood, asks, wants, wrote]
  write_last := by
    intro last member writing
    have same : last = write := by
      rcases List.mem_cons.1 member with rfl | later
      · rw [reads] at writing
        cases writing
      · exact List.mem_singleton.1 later
    subst same
    exact ⟨rfl, [read], rfl, by simp [reads]⟩
  failed_last := by simp [reads, understood, wrote]
  decided := fun _ => ⟨read, List.mem_cons_self, asks⟩

/-- Another read comes before. -/
theorem after (reads : writes read = false) (other : ¬ decides read)
    (understood : read.decoded = .ok rows) (rest : ReadFirst writes decides wanted sent result) :
    ReadFirst writes decides wanted (read :: sent) result where
  writes_iff := by simpa [reads, other, understood] using rest.writes_iff
  write_last := by
    intro write member writing
    rcases List.mem_cons.1 member with rfl | later
    · rw [reads] at writing
      cases writing
    · obtain ⟨same, earlier, split, noWrite⟩ := rest.write_last write later writing
      refine ⟨same, read :: earlier, by rw [split, List.cons_append], ?_⟩
      exact List.forall_mem_cons.2 ⟨reads, noWrite⟩
  failed_last := by
    intro failing member noWrite failure failed
    rcases List.mem_cons.1 member with rfl | later
    · rw [understood] at failed
      cases failed
    · obtain ⟨same, earlier, split⟩ := rest.failed_last failing later noWrite failure failed
      exact ⟨same, read :: earlier, by rw [split, List.cons_append]⟩
  decided := by
    intro all
    obtain ⟨deciding, member, asks⟩ :=
      rest.decided fun read member => all read (List.mem_cons_of_mem _ member)
    exact ⟨deciding, List.mem_cons_of_mem _ member, asks⟩

/-- There is at most one write. -/
theorem countP_writes (first : ReadFirst writes decides wanted sent result) :
    sent.countP writes ≤ 1 := by
  by_cases some : ∃ write ∈ sent, writes write = true
  · obtain ⟨write, member, writing⟩ := some
    obtain ⟨-, reads, split, noWrite⟩ := first.write_last write member writing
    have none : reads.countP writes = 0 := by
      rw [List.countP_eq_zero]
      intro read member
      simp [noWrite read member]
    rw [split, List.countP_append, none, List.countP_singleton]
    simp [writing]
  · have none : sent.countP writes = 0 := by
      rw [List.countP_eq_zero]
      intro write member writing
      exact some ⟨write, member, writing⟩
    omega

end ReadFirst

namespace Session

open Dispatched (createsTable altersTable AsksCatalog AsksColumnType decoded_of_rows_error
  decoded_eq_rows decoded_version query_reads)

variable {session : Session}

/-! ## Requests of a session that is no dry run -/

/-- A statement that ends a script is handed on, and answers for the script. -/
theorem submit_live (live : session.dryRun.truthy = false) {template params : Value} {sql : String}
    {values : Option (List Value)}
    (prepared : Statement.prepare session.engine.dialect template params = .ok sql)
    (listed : parameterValues params = .ok values) :
    ∃ answer, dispatched (.submit template params pure) session = [⟨sql, values, answer⟩] ∧
      ((perform (.submit template params pure)).run session).result = answer := by
  refine ⟨((submit template params).run session).result, ?_, ?_⟩
  · rw [dispatched, handedOn_live live prepared listed]
    cases ((submit template params).run session).result <;> rfl
  · rw [perform]
    cases result : ((submit template params).run session).result with
    | ok value =>
        rw [Act.run_bind_ok result]
        rfl
    | error failure => rw [Act.run_bind_error result]

/-- A query is handed on; it ends its script if it fails, and otherwise the script goes on with its
rows. -/
theorem fetch_live (live : session.dryRun.truthy = false) {template params : Value} {sql : String}
    {values : Option (List Value)}
    (prepared : Statement.prepare session.engine.dialect template params = .ok sql)
    (listed : parameterValues params = .ok values) (next : List Row → Script Value) :
    ∃ read : Dispatched, read.sql = sql ∧ read.values = values ∧
      ((∃ failure, read.rows = .error failure ∧
          dispatched (.fetch template params next) session = [read] ∧
          ((perform (.fetch template params next)).run session).result = .error failure) ∨
        ∃ rows later, read.rows = .ok rows ∧ later.engine = session.engine ∧
          later.dryRun.truthy = false ∧
          dispatched (.fetch template params next) session = read :: dispatched (next rows) later ∧
          ((perform (.fetch template params next)).run session).result
            = ((perform (next rows)).run later).result) := by
  let read : Dispatched := ⟨sql, values, ((submit template params).run session).result⟩
  have same : ((fetch template params).run session).result = read.rows := by
    rw [run_fetch_eq]
    rfl
  refine ⟨read, rfl, rfl, ?_⟩
  rw [dispatched, perform, handedOn_live live prepared listed]
  cases result : ((fetch template params).run session).result with
  | error failure =>
      refine .inl ⟨failure, same.symm.trans result, rfl, ?_⟩
      rw [Act.run_bind_error result]
  | ok rows =>
      have framed : ((fetch template params).run session).state =
          { session with link := ((fetch template params).run session).state.link } :=
        fetch_framed template params session
      refine .inr ⟨rows, ((fetch template params).run session).state, same.symm.trans result,
        ?_, ?_, rfl, ?_⟩
      · rw [framed]
      · rw [framed]
        exact live
      · rw [Act.run_bind_ok result]

/-! ## The creation of the migrations table -/

/-- The look into the catalog decides whether the migrations table is created. -/
theorem lookUp_reads_first (live : session.dryRun.truthy = false) (mayExist : Bool) :
    ReadFirst createsTable (AsksCatalog session.engine) (· = [])
      (dispatched (session.engine.lookUp mayExist) session)
      ((perform (session.engine.lookUp mayExist)).run session).result := by
  obtain ⟨read, sql, values, ⟨failure, failed, sent, result⟩ |
    ⟨rows, later, understood, engine, still, sent, result⟩⟩ :=
    fetch_live live (session.engine.prepare_parameterized session.engine.catalogQuery
      (.text migrationsTable) []) rfl (session.engine.createUnlisted mayExist)
  all_goals
    have asks : read.AsksCatalog session.engine := ⟨sql, values⟩
    obtain ⟨noCreation, -, other⟩ := query_reads (asks.opens session.engine.catalogQuery_opens)
    rw [Engine.lookUp, sent, result]
  · exact .failed noCreation (decoded_of_rows_error failed)
  · rw [← decoded_eq_rows other] at understood
    cases rows with
    | cons row rest => exact .declined noCreation asks understood (by simp) _
    | nil =>
        obtain ⟨notes, creation⟩ := session.engine.createUnlisted_nil mayExist
        obtain ⟨answer, written, answered⟩ := submit_live still
          (later.engine.prepare_text (session.engine.migrationsTableStatement mayExist)) rfl
        rw [creation, dispatched_notes, run_perform_notes, Script.run, written, answered, engine]
        exact .written noCreation asks understood rfl
          (session.engine.migrationsTableStatement_begins mayExist)

/-- **The migrations table is created if all reads succeed and the catalog has no rows**, whatever
is answered. -/
theorem create_reads_first (live : session.dryRun.truthy = false) (now : Timestamp) :
    ReadFirst createsTable (AsksCatalog session.engine) (· = [])
      (stepDispatched now (.operation .createMigrationsTable) session)
      ((step now (.operation .createMigrationsTable)).run session).result := by
  rw [run_step_operation, stepDispatched, Operation.script, Engine.createMigrationsTable_eq]
  cases engine : session.engine with
  | mysql => simpa only [engine] using lookUp_reads_first live true
  | sqlite => simpa only [engine] using lookUp_reads_first live true
  | postgres =>
      have prepared : Statement.prepare session.engine.dialect (.text Engine.versionQuery) .null
          = .ok Engine.versionQuery := by
        rw [session.engine.prepare_text,
          (session.engine.withoutBrackets_eq_self_iff _).2 Engine.versionQuery_unbracketed]
      obtain ⟨read, sql, values, ⟨failure, failed, sent, result⟩ |
        ⟨rows, later, understood, same, still, sent, result⟩⟩ :=
        fetch_live live prepared rfl Engine.afterVersion
      all_goals
        have noCreation : read.createsTable = false := by
          rw [createsTable, sql]
          exact Engine.versionQuery_opens.not_begins ⟨_, String.toList_ofList⟩
            (by decide : 'C' ≠ 's')
        simp only [sent, result]
      · exact .failed noCreation (decoded_of_rows_error failed)
      · have decoded := decoded_version sql understood
        cases reported : Engine.reportedVersion rows with
        | error failure =>
            rw [reported] at decoded
            rw [Engine.afterVersion, reported]
            exact .failed noCreation decoded
        | ok version =>
            rw [reported] at decoded
            have other : ¬ read.AsksCatalog .postgres := fun asks =>
              (query_reads (asks.opens (Engine.catalogQuery_opens .postgres))).2.2 sql
            have rest := lookUp_reads_first still (Engine.versionSupports version)
            rw [same, engine] at rest
            rw [Engine.afterVersion, reported, dispatched_notes, run_perform_notes]
            exact .after noCreation other decoded rest

/-! ## The renaming of a column by its type -/

/-- The three ways in which MySQL renames a column, by what it reads of the type. -/
theorem rename_cases (live : session.dryRun.truthy = false) (mysql : session.engine = .mysql)
    (now : Timestamp) (table column newColumn : Value) :
    let sent := stepDispatched now (.operation (.renameColumn table column newColumn)) session
    let result := ((step now (.operation (.renameColumn table column newColumn))).run session).result
    ∃ read : Dispatched, read.AsksColumnType .mysql table column ∧
      ((∃ failure, read.rows = .error failure ∧ sent = [read] ∧ result = .error failure) ∨
        (read.rows = .ok [] ∧ sent = [read] ∧
          result = .error (Engine.columnNotFound .mysql table column)) ∨
        ∃ row others, read.rows = .ok (row :: others) ∧
          sent = [read, ⟨Engine.withoutBrackets .mysql (Engine.renameColumnOfType .mysql table column
            newColumn (Engine.foundType row)), none, result⟩]) := by
  intro sent result
  have script : (Operation.renameColumn table column newColumn).script session.engine now =
      .fetch (.text Engine.columnTypeQuery) (.list [table, column])
        (Engine.renameFound .mysql table column newColumn) := by
    rw [mysql, ← Engine.renameByCatalogType_eq]
    rfl
  have outcome : result = ((perform (.fetch (.text Engine.columnTypeQuery) (.list [table, column])
      (Engine.renameFound .mysql table column newColumn))).run session).result := by
    rw [← script, ← run_step_operation]
  have handed : sent = dispatched (.fetch (.text Engine.columnTypeQuery) (.list [table, column])
      (Engine.renameFound .mysql table column newColumn)) session := by
    rw [← script]
    rfl
  obtain ⟨read, sql, values, ⟨failure, failed, sole, ended⟩ |
    ⟨rows, later, understood, same, still, first, rest⟩⟩ :=
    fetch_live live (session.engine.prepare_parameterized Engine.columnTypeQuery table [column]) rfl
      (Engine.renameFound .mysql table column newColumn)
  · refine ⟨read, ⟨mysql ▸ sql, values⟩, .inl ⟨failure, failed, ?_, ?_⟩⟩
    · rw [handed, sole]
    · rw [outcome, ended]
  · refine ⟨read, ⟨mysql ▸ sql, values⟩, .inr ?_⟩
    rw [outcome, handed, first, rest]
    cases rows with
    | nil =>
        refine .inl ⟨understood, ?_, ?_⟩
        · rw [Engine.renameFound, dispatched, still]
          rfl
        · rw [Engine.renameFound, perform, Act.run_get_bind, still]
          rfl
    | cons row others =>
        obtain ⟨answer, written, answered⟩ := submit_live still (later.engine.prepare_text
          (Engine.renameColumnOfType .mysql table column newColumn (Engine.foundType row))) rfl
        refine .inr ⟨row, others, understood, ?_⟩
        rw [Engine.renameFound, Script.run, written, answered, same, mysql]

/-- **MySQL renames a column if the look for its type succeeds and has a row**, whatever is
answered; the new definition has the type of the first row.  Without rows the column is reported as
not found. -/
theorem rename_reads_first (live : session.dryRun.truthy = false) (mysql : session.engine = .mysql)
    (now : Timestamp) (table column newColumn : Value) :
    let sent := stepDispatched now (.operation (.renameColumn table column newColumn)) session
    let result := ((step now (.operation (.renameColumn table column newColumn))).run session).result
    ReadFirst altersTable (AsksColumnType .mysql table column) (· ≠ []) sent result ∧
      (∀ read ∈ sent, read.AsksColumnType .mysql table column → read.rows = .ok [] →
        result = .error (Engine.columnNotFound .mysql table column)) ∧
      ∀ write ∈ sent, write.altersTable = true →
        ∃ read ∈ sent, read.AsksColumnType .mysql table column ∧ ∃ row others,
          read.rows = .ok (row :: others) ∧
          write.sql = Engine.withoutBrackets .mysql (Engine.renameColumnOfType .mysql table column
            newColumn (Engine.foundType row)) := by
  intro sent result
  obtain ⟨read, asks, way⟩ := rename_cases live mysql now table column newColumn
  obtain ⟨-, noChange, other⟩ := query_reads (asks.opens Engine.columnTypeQuery_opens)
  have understood := decoded_eq_rows other
  rcases way with ⟨failure, failed, handed, ended⟩ | ⟨empty, handed, ended⟩ |
    ⟨row, others, found, handed⟩
  · change sent = _ at handed
    change result = _ at ended
    rw [handed, ended]
    refine ⟨.failed noChange (decoded_of_rows_error failed), ?_, ?_⟩
    · simp [failed]
    · simp [noChange]
  · change sent = _ at handed
    change result = _ at ended
    rw [handed, ended]
    refine ⟨.declined noChange asks (understood.trans empty) (by simp) _, fun _ _ _ _ => rfl, ?_⟩
    simp [noChange]
  · change sent = [read, ⟨_, none, result⟩] at handed
    have wrote := Engine.renameColumnOfType_begins .mysql table column newColumn
      (Engine.foundType row)
    rw [handed]
    refine ⟨.written noChange asks (understood.trans found) (by simp) wrote, ?_, ?_⟩
    · intro reading member asked empty
      rcases List.mem_cons.1 member with rfl | later
      · rw [found] at empty
        cases empty
      · rw [List.mem_singleton.1 later] at asked
        cases asked.2
    · intro write member writing
      rcases List.mem_cons.1 member with rfl | later
      · rw [noChange] at writing
        cases writing
      · exact ⟨read, List.mem_cons_self, asks, row, others, found, by rw [List.mem_singleton.1 later]⟩

/-! ## Bookkeeping -/

/-- A step of the bookkeeping that does not create the migrations table creates none. -/
theorem records_create_nothing (live : session.dryRun.truthy = false) (now : Timestamp)
    {operation : Operation} (records : operation.isBookkeeping = true)
    (other : operation ≠ .createMigrationsTable) :
    ∀ sent ∈ stepDispatched now (.operation operation) session, sent.createsTable = false := by
  cases operation with
  | createMigrationsTable => exact absurd rfl other
  | addMigrationRecord name =>
      obtain ⟨answer, handed, -⟩ := submit_live live
        (session.engine.prepare_parameterized Engine.recordTemplate name [.text now.text]) rfl
      have script : stepDispatched now (.operation (.addMigrationRecord name)) session
          = dispatched (.submit (.text Engine.recordTemplate) (.list [name, .text now.text]) pure)
            session := rfl
      have opens : Opens 'I' (session.engine.parameterized Engine.recordTemplate) :=
        Engine.recordTemplate_opens.parameterized Engine.kept_I session.engine
      intro sent member
      rw [script, handed, List.mem_singleton] at member
      rw [member, createsTable]
      exact opens.not_begins ⟨_, String.toList_ofList⟩ (by decide : 'C' ≠ 'I')
  | loadedMigrations =>
      have script : stepDispatched now (.operation .loadedMigrations) session
          = dispatched (.fetch (.text Engine.recordsQuery) .null fun rows =>
            .done (Engine.readRecords rows)) session := by
        rw [stepDispatched, Operation.script, Engine.loadedMigrations_eq]
      obtain ⟨read, sql, -, ⟨failure, -, handed, -⟩ | ⟨rows, later, -, -, -, handed, -⟩⟩ :=
        fetch_live live (session.engine.prepare_text Engine.recordsQuery) rfl
          fun rows => .done (Engine.readRecords rows)
      all_goals
        have opens : Opens 'S' read.sql := by
          rw [sql]
          exact Engine.recordsQuery_opens.withoutBrackets Engine.kept_S session.engine
        intro sent member
        rw [script, handed] at member
        rw [List.mem_singleton.1 member]
        exact (query_reads opens).1
  | _ => cases records

/-- A step of the bookkeeping creates a table at most once, and only if the catalog was found to have
no rows. -/
theorem step_creates (live : session.dryRun.truthy = false) (now : Timestamp)
    {operation : Operation} (bookkeeping : operation.isBookkeeping = true) :
    (stepDispatched now (.operation operation) session).countP Dispatched.createsTable ≤ 1 ∧
      ((∀ read ∈ stepDispatched now (.operation operation) session,
          read.AsksCatalog session.engine → read.rows ≠ .ok []) →
        ∀ sent ∈ stepDispatched now (.operation operation) session, sent.createsTable = false) := by
  by_cases creates : operation = .createMigrationsTable
  · subst creates
    have first := create_reads_first live now
    refine ⟨first.countP_writes, ?_⟩
    intro listed sent member
    cases creation : sent.createsTable with
    | false => rfl
    | true =>
        obtain ⟨-, read, asked, asks, rows, decoded, rfl⟩ := first.writes_iff.1 ⟨sent, member, creation⟩
        have other := (Dispatched.query_reads (asks.opens session.engine.catalogQuery_opens)).2.2
        rw [Dispatched.decoded_eq_rows other] at decoded
        exact absurd decoded (listed read asked asks)
  · have nothing := records_create_nothing live now bookkeeping creates
    refine ⟨?_, fun _ => nothing⟩
    have none : (stepDispatched now (.operation operation) session).countP
        Dispatched.createsTable = 0 := by
      rw [List.countP_eq_zero]
      intro sent member
      simp [nothing sent member]
    omega

/-- The steps of a run keep the records of migrations. -/
def Bookkeeping (steps : List (Timestamp × Step)) : Prop :=
  ∀ timed ∈ steps, ∃ operation, timed.2 = .operation operation ∧ operation.isBookkeeping = true

/-- An operation leaves the engine of a session alone, and whether it is a dry run. -/
theorem step_operation_keeps (now : Timestamp) (operation : Operation) (session : Session) :
    ((step now (.operation operation)).run session).state.engine = session.engine ∧
      ((step now (.operation operation)).run session).state.dryRun = session.dryRun := by
  rw [run_step_operation, perform_framed]
  exact ⟨rfl, rfl⟩

/-- Where the catalog is never found to have no rows, no bookkeeping creates a table. -/
theorem runAll_creates_nothing (live : session.dryRun.truthy = false)
    {steps : List (Timestamp × Step)} (bookkeeping : Bookkeeping steps)
    (listed : ∀ read ∈ runDispatched steps session,
      read.AsksCatalog session.engine → read.rows ≠ .ok []) :
    ∀ sent ∈ runDispatched steps session, sent.createsTable = false := by
  induction steps generalizing session with
  | nil =>
      intro sent member
      cases member
  | cons head rest ih =>
      obtain ⟨now, next⟩ := head
      obtain ⟨operation, rfl, records⟩ := bookkeeping _ List.mem_cons_self
      obtain ⟨engine, dryRun⟩ := step_operation_keeps now operation session
      rw [runDispatched, List.forall_mem_append] at listed ⊢
      refine ⟨(step_creates live now records).2 listed.1, ?_⟩
      apply ih
      · rw [dryRun]
        exact live
      · exact fun timed member => bookkeeping timed (List.mem_cons_of_mem _ member)
      · rw [engine]
        exact listed.2

/-- The catalog lists what has been created: once a creation has been accepted, the look for the
migrations table is not answered with no rows. -/
def Remembers (engine : Engine) (sent : List Dispatched) : Prop :=
  sent.Pairwise fun write read =>
    write.created = true → read.AsksCatalog engine → read.rows ≠ .ok []

/-- **The migrations table is created at most once** over any bookkeeping, where the catalog lists
what has been created. -/
theorem created_at_most_once (live : session.dryRun.truthy = false)
    {steps : List (Timestamp × Step)} (bookkeeping : Bookkeeping steps)
    (remembers : Remembers session.engine (runDispatched steps session)) :
    (runDispatched steps session).countP Dispatched.created ≤ 1 := by
  have weaker (sent : List Dispatched) :
      sent.countP Dispatched.created ≤ sent.countP Dispatched.createsTable := by
    apply List.countP_mono_left
    intro one _ created
    exact (Bool.and_eq_true_iff.1 created).1
  induction steps generalizing session with
  | nil => exact Nat.zero_le 1
  | cons head rest ih =>
      obtain ⟨now, next⟩ := head
      obtain ⟨operation, rfl, records⟩ := bookkeeping _ List.mem_cons_self
      obtain ⟨engine, dryRun⟩ := step_operation_keeps now operation session
      have others : Bookkeeping rest :=
        fun timed member => bookkeeping timed (List.mem_cons_of_mem _ member)
      have once := (step_creates live now records).1
      rw [← dryRun] at live
      rw [runDispatched, List.countP_append]
      rw [runDispatched, Remembers, List.pairwise_append] at remembers
      obtain ⟨-, after, across⟩ := remembers
      by_cases created : ∃ write ∈ stepDispatched now (.operation operation) session,
          write.created = true
      · -- from here on the catalog has a row
        obtain ⟨write, member, accepted⟩ := created
        have nothing := runAll_creates_nothing live others fun read asked asks =>
          across write member read asked accepted (engine ▸ asks)
        have none : (runDispatched rest ((step now (.operation operation)).run
            session).state).countP Dispatched.createsTable = 0 := by
          rw [List.countP_eq_zero]
          intro sent member
          simp [nothing sent member]
        have first := weaker (stepDispatched now (.operation operation) session)
        have last := weaker (runDispatched rest ((step now (.operation operation)).run session).state)
        omega
      · have none : (stepDispatched now (.operation operation) session).countP
            Dispatched.created = 0 := by
          rw [List.countP_eq_zero]
          intro sent member accepted
          exact created ⟨sent, member, accepted⟩
        have last := ih live others (engine ▸ after)
        omega

/-- **Writes follow reads.**  Over any open connection, whatever it answers, and outside dry runs:
what an operation hands on is what the connection answers, in order, and nothing else reaches it.
The migrations table is created exactly if every read succeeds, is understood, and finds no rows in
the catalog; MySQL renames a column exactly if the look for its type has a row, and reports the
column as not found if it has none.  Either write is the only one and comes last, and a read that
fails is the last statement and fails the operation.  So over any bookkeeping, against a database
whose catalog has a row once the creation has been accepted, at most one creation is accepted. -/
theorem writes_follow_reads (live : session.dryRun.truthy = false) (opened : session.closed = false)
    (now : Timestamp) :
    (∀ operation,
      let outcome := (step now (.operation operation)).run session
      Link.Answers session.link (stepDispatched now (.operation operation) session)
        (outcome.events.filter Event.isTraffic) outcome.state.link) ∧
    ReadFirst Dispatched.createsTable (Dispatched.AsksCatalog session.engine) (· = [])
      (stepDispatched now (.operation .createMigrationsTable) session)
      ((step now (.operation .createMigrationsTable)).run session).result ∧
    (session.engine = .mysql → ∀ table column newColumn,
      let sent := stepDispatched now (.operation (.renameColumn table column newColumn)) session
      let result :=
        ((step now (.operation (.renameColumn table column newColumn))).run session).result
      ReadFirst Dispatched.altersTable (Dispatched.AsksColumnType .mysql table column) (· ≠ [])
          sent result ∧
        (∀ read ∈ sent, read.AsksColumnType .mysql table column → read.rows = .ok [] →
          result = .error (Engine.columnNotFound .mysql table column)) ∧
        ∀ write ∈ sent, write.altersTable = true →
          ∃ read ∈ sent, read.AsksColumnType .mysql table column ∧ ∃ row others,
            read.rows = .ok (row :: others) ∧
            write.sql = Engine.withoutBrackets .mysql (Engine.renameColumnOfType .mysql table column
              newColumn (Engine.foundType row))) ∧
    ∀ steps, Bookkeeping steps →
      Link.Answers session.link (runDispatched steps session) (traffic steps session)
          (runAll steps session).2.link ∧
        (Remembers session.engine (runDispatched steps session) →
          (runDispatched steps session).countP Dispatched.created ≤ 1) := by
  refine ⟨?_, create_reads_first live now, ?_, ?_⟩
  · intro operation outcome
    have answers := answers_perform opened (operation.script session.engine now)
    rw [← run_step_operation] at answers
    exact answers
  · intro mysql table column newColumn
    exact rename_reads_first live mysql now table column newColumn
  · intro steps bookkeeping
    refine ⟨?_, created_at_most_once live bookkeeping⟩
    refine answers_runAll opened fun timed member => ?_
    obtain ⟨operation, same, -⟩ := bookkeeping timed member
    exact ⟨operation, same⟩

/-- A MySQL database without a migrations table, which has one when it is asked again. -/
def reactingSession : Session :=
  { Connect.plainSession with
    engine := .mysql
    link := .plain [.answer .null, .answer .null,
      .answer (.list [.map [(.text "table_name", .text migrationsTable)]])] }

/-- The migrations table is asked for twice and created once. -/
theorem writes_follow_reads_twice :
    let now : Timestamp := ⟨2024, 1, 2, 3, 4, 5, 6⟩
    let steps := [(now, Step.operation .createMigrationsTable),
      (now, Step.operation .createMigrationsTable)]
    let rename := Step.operation (.renameColumn (.text "t") (.text "a") (.text "b"))
    reactingSession.dryRun.truthy = false ∧ reactingSession.closed = false ∧
      Bookkeeping steps ∧ Remembers .mysql (runDispatched steps reactingSession) ∧
      (runDispatched steps reactingSession).countP Dispatched.created ≤ 1 ∧
      (∃ write ∈ stepDispatched now (.operation .createMigrationsTable) reactingSession,
        write.createsTable = true ∧
          ((step now (.operation .createMigrationsTable)).run reactingSession).result
            = write.answer) ∧
      ((step now rename).run reactingSession).result
        = .error (Engine.columnNotFound .mysql (.text "t") (.text "a")) := by
  intro now steps rename
  have live : reactingSession.dryRun.truthy = false := rfl
  have opened : reactingSession.closed = false := rfl
  obtain ⟨-, creation, renames, runs⟩ := writes_follow_reads live opened now
  let look : Dispatched :=
    ⟨Engine.parameterized .mysql (Engine.catalogQuery .mysql), some [.text migrationsTable],
      .ok .null⟩
  let write : Dispatched :=
    ⟨Engine.withoutBrackets .mysql (Engine.migrationsTableStatement .mysql true), none, .ok .null⟩
  let again : Dispatched :=
    { look with answer := .ok (.list [.map [(.text "table_name", .text migrationsTable)]]) }
  have handed : stepDispatched now (.operation .createMigrationsTable) reactingSession
      = [look, write] := rfl
  have both : runDispatched steps reactingSession = [look, write, again] := rfl
  have bookkeeping : Bookkeeping steps := by
    intro timed member
    refine ⟨.createMigrationsTable, ?_, rfl⟩
    simp only [steps, List.mem_cons, List.not_mem_nil, or_false, or_self] at member
    rw [member]
  have remembers : Remembers .mysql (runDispatched steps reactingSession) := by
    have found : again.rows ≠ .ok [] := nofun
    have unasked : ¬ write.AsksCatalog .mysql := fun asks => nomatch asks.2
    rw [both]
    simp [Remembers, found, unasked]
  have created : write.createsTable = true := Engine.migrationsTableStatement_begins .mysql true
  obtain ⟨answered, -⟩ := creation.write_last write (by rw [handed]; simp) created
  obtain ⟨-, unlisted, -⟩ := renames rfl (.text "t") (.text "a") (.text "b")
  have missing := unlisted
    ⟨Engine.parameterized .mysql Engine.columnTypeQuery, some [.text "t", .text "a"], .ok .null⟩
    (List.mem_singleton_self _) ⟨rfl, rfl⟩ rfl
  exact ⟨live, opened, bookkeeping, remembers, (runs steps bookkeeping).2 remembers,
    ⟨write, by rw [handed]; simp, created, answered⟩, missing⟩

end Session

end SchemaChange
