/-
# SchemaChange.Proofs.Session.RecordedTimes — migrations in the order of their runs

A migration is recorded with the text of the time of its run, and the records are asked for in the
descending order of these texts.  The database compares texts and the reader means times; the two
agree on every table of records.

* `handed_record`, `handed_records` — what is bound for a record, and what is asked for all of them.
* `descending_iff` — rows are in the descending order of their texts exactly if no record comes
  before a later one.
* `recorded_times_sort_chronologically` — so what is listed has the most recent migrations first.
-/
import Mathlib.Data.List.Perm.Basic
import SchemaChange.Proofs.Session.ReadFirst
import SchemaChange.Proofs.Timestamp.Order

set_option autoImplicit false

namespace SchemaChange

open SchemaChange.Statement (Row)
open SchemaChange.Text (Before)

/-- A migration that was recorded, with the reading of the clock at its run. -/
structure Recorded where
  name : Value
  time : Timestamp

namespace Recorded

/-- A row keeps what was bound for a record, whatever else is in it. -/
def KeptIn (recorded : Recorded) (row : Row) : Prop :=
  row.get? "name" = some recorded.name ∧ row.get? "run_on" = some (.text recorded.time.text)

/-- A value lists a record, under any number. -/
def ListedAs (recorded : Recorded) (value : Value) : Prop :=
  ∃ id, value = .record recorded.name (.text recorded.time.text) id

/-- No record comes before a later one. -/
def MostRecentFirst (listed : List Recorded) : Prop :=
  listed.Pairwise fun above below => ¬ above.time.Earlier below.time

end Recorded

/-- Rows are in the descending order of the texts of a column. -/
def Statement.Descending (column : String) (rows : List Row) : Prop :=
  rows.Pairwise fun above below => ∀ first second : String,
    above.get? column = some (.text first) → below.get? column = some (.text second) →
      ¬ Before first.toList second.toList

open SchemaChange.Statement (Descending)

variable {listed : List Recorded} {rows : List Row}

/-! ## Rows of records -/

theorem Recorded.KeptIn.ofRow {recorded : Recorded} {row : Row} (kept : recorded.KeptIn row) :
    ∃ record, MigrationRecord.ofRow (.map row) = .ok record ∧ recorded.ListedAs record.toValue := by
  obtain ⟨name, time⟩ := kept
  refine ⟨⟨recorded.name, .text recorded.time.text, row.getD "id" .null⟩, ?_, _, rfl⟩
  simp only [MigrationRecord.ofRow, Value.index, name, time]
  rfl

/-- Rows that keep records are read as these records, in their order. -/
theorem readRecords_kept (kept : List.Forall₂ Recorded.KeptIn listed rows) :
    ∃ values, Engine.readRecords rows = .ok (.list values) ∧
      List.Forall₂ Recorded.ListedAs listed values := by
  suffices read : ∃ records : List MigrationRecord,
      (rows.mapM fun row => MigrationRecord.ofRow (.map row)) = .ok records ∧
        List.Forall₂ Recorded.ListedAs listed (records.map MigrationRecord.toValue) by
    obtain ⟨records, read, each⟩ := read
    exact ⟨_, by rw [Engine.readRecords, read]; rfl, each⟩
  induction kept with
  | nil => exact ⟨[], rfl, .nil⟩
  | cons here _ ih =>
      obtain ⟨record, read, one⟩ := here.ofRow
      obtain ⟨records, others, each⟩ := ih
      refine ⟨record :: records, ?_, .cons one each⟩
      rw [List.mapM_cons, read, others]
      rfl

/-! ## The order of rows -/

/-- A row may stand above another exactly if its record is not the earlier one. -/
theorem Recorded.KeptIn.above_iff {recorded below : Recorded} {row other : Row}
    (here : recorded.KeptIn row) (there : below.KeptIn other) (legible : recorded.time.Legible)
    (legible' : below.time.Legible) :
    (∀ first second : String, row.get? "run_on" = some (.text first) →
      other.get? "run_on" = some (.text second) → ¬ Before first.toList second.toList) ↔
        ¬ recorded.time.Earlier below.time := by
  have texts : Before recorded.time.text.toList below.time.text.toList ↔
      recorded.time.Earlier below.time := by
    rw [Timestamp.text, Timestamp.text, String.toList_ofList, String.toList_ofList,
      legible.chars_before_iff legible']
  rw [here.2, there.2, ← texts]
  constructor
  · intro ordered
    exact ordered _ _ rfl rfl
  · rintro ordered first second ⟨⟩ ⟨⟩
    exact ordered

/-- So it is for a row above many. -/
theorem Recorded.KeptIn.above_all_iff {recorded : Recorded} {row : Row}
    (here : recorded.KeptIn row) (legible : recorded.time.Legible)
    (kept : List.Forall₂ Recorded.KeptIn listed rows)
    (all : ∀ below ∈ listed, below.time.Legible) :
    (∀ other ∈ rows, ∀ first second : String, row.get? "run_on" = some (.text first) →
      other.get? "run_on" = some (.text second) → ¬ Before first.toList second.toList) ↔
        ∀ below ∈ listed, ¬ recorded.time.Earlier below.time := by
  induction kept with
  | nil => simp
  | cons there _ ih =>
      obtain ⟨next, rest⟩ := List.forall_mem_cons.1 all
      rw [List.forall_mem_cons, List.forall_mem_cons, here.above_iff there legible next, ih rest]

/-- **Rows are in the descending order of their texts exactly if no record comes before a later
one.** -/
theorem descending_iff (kept : List.Forall₂ Recorded.KeptIn listed rows)
    (legible : ∀ recorded ∈ listed, recorded.time.Legible) :
    Descending "run_on" rows ↔ Recorded.MostRecentFirst listed := by
  induction kept with
  | nil => exact iff_of_true .nil .nil
  | cons here others ih =>
      obtain ⟨first, rest⟩ := List.forall_mem_cons.1 legible
      rw [Descending, Recorded.MostRecentFirst, List.pairwise_cons, List.pairwise_cons,
        here.above_all_iff first others rest]
      exact and_congr_right fun _ => ih rest

namespace Session

variable {session : Session}

/-! ## What is bound and what is asked -/

/-- The statement that records a migration binds its name and the text of the time. -/
theorem handed_record (live : session.dryRun.truthy = false) (name : Value) (now : Timestamp) :
    ∃ answer, stepDispatched now (.operation (.addMigrationRecord name)) session =
      [⟨session.engine.parameterized Engine.recordTemplate, some [name, .text now.text], answer⟩] := by
  obtain ⟨answer, handed, -⟩ := submit_live live
    (session.engine.prepare_parameterized Engine.recordTemplate name [.text now.text]) rfl
  exact ⟨answer, handed⟩

/-- The records are asked for by one query, whose rows are what is listed. -/
theorem handed_records (live : session.dryRun.truthy = false) (now : Timestamp) :
    ∃ read : Dispatched, stepDispatched now (.operation .loadedMigrations) session = [read] ∧
      read.sql = session.engine.withoutBrackets Engine.recordsQuery ∧ read.values = none ∧
      ((step now (.operation .loadedMigrations)).run session).result =
        read.rows.bind Engine.readRecords := by
  rw [run_step_operation, stepDispatched, Operation.script, Engine.loadedMigrations_eq]
  obtain ⟨read, sql, values, ⟨failure, failed, handed, ended⟩ | ⟨rows, later, answered, -, -, handed,
      ended⟩⟩ := fetch_live live (session.engine.prepare_text Engine.recordsQuery) rfl
    fun rows => .done (Engine.readRecords rows)
  · exact ⟨read, handed, sql, values, by rw [ended, failed]; rfl⟩
  · exact ⟨read, handed, sql, values, by rw [ended, answered]; rfl⟩

/-- **Recorded times sort chronologically.**  Over every live session, whatever its engine and its
connection, a migration is recorded with the text of the time of its run.  Of two readings with a
year of four digits the earlier has the text that comes before by code points, and two have one text
exactly if they fall into one second.  So where a table keeps migrations that were recorded at such
times and its rows are answered to the query of the records, in any arrangement, these migrations
are listed, in this arrangement; and they have the most recent ones first exactly if the rows are in
the descending order of their texts, as the query asks. -/
theorem recorded_times_sort_chronologically :
    (∀ (session : Session) (name : Value) (now : Timestamp), session.dryRun.truthy = false →
      ∃ answer, stepDispatched now (.operation (.addMigrationRecord name)) session =
        [⟨session.engine.parameterized "INSERT INTO [migrations] (name, run_on) VALUES (?, ?)",
          some [name, .text now.text], answer⟩]) ∧
    (∀ t u : Timestamp, t.Legible → u.Legible →
      (Before t.text.toList u.text.toList ↔ t.Earlier u) ∧ (t.text = u.text ↔ t.parts = u.parts)) ∧
    ∀ (session : Session) (now : Timestamp), session.dryRun.truthy = false →
      ∃ read : Dispatched, stepDispatched now (.operation .loadedMigrations) session = [read] ∧
        read.sql = session.engine.withoutBrackets
          "SELECT * FROM [migrations] ORDER BY run_on DESC, name DESC" ∧
        read.values = none ∧
        ∀ (recorded : List Recorded) (kept rows : List Row),
          List.Forall₂ Recorded.KeptIn recorded kept →
          (∀ one ∈ recorded, one.time.Legible) → rows.Perm kept → read.rows = .ok rows →
          ∃ listed values, listed.Perm recorded ∧
            ((step now (.operation .loadedMigrations)).run session).result = .ok (.list values) ∧
            List.Forall₂ Recorded.ListedAs listed values ∧
            (Descending "run_on" rows ↔ Recorded.MostRecentFirst listed) := by
  refine ⟨fun session name now live => handed_record live name now, fun t u ht hu => ⟨?_, ?_⟩,
    fun session now live => ?_⟩
  · rw [Timestamp.text, Timestamp.text, String.toList_ofList, String.toList_ofList,
      ht.chars_before_iff hu]
  · rw [Timestamp.text, Timestamp.text, String.ofList_inj, ht.chars_eq_iff hu]
  · obtain ⟨read, handed, sql, values, result⟩ := handed_records live now
    refine ⟨read, handed, sql, values, fun recorded kept rows keeps legible arranged answered => ?_⟩
    obtain ⟨listed, keeps', arranged'⟩ := List.perm_comp_forall₂ arranged keeps.flip
    have legible' : ∀ one ∈ listed, one.time.Legible := fun one member =>
      legible one (arranged'.mem_iff.1 member)
    obtain ⟨records, understood, each⟩ := readRecords_kept keeps'.flip
    refine ⟨listed, records, arranged', ?_, each, descending_iff keeps'.flip legible'⟩
    rw [result, answered]
    exact understood

/-- Two migrations that were recorded in one second and one that was recorded years before, in the
order in which they were. -/
def recordedMigrations : List Recorded :=
  [⟨.text "first", ⟨1999, 12, 31, 23, 59, 59, 999999⟩⟩,
    ⟨.text "second", ⟨2024, 1, 2, 3, 4, 5, 6⟩⟩, ⟨.text "third", ⟨2024, 1, 2, 3, 4, 5, 7⟩⟩]

/-- The row that a table keeps of a record. -/
def keptRow (recorded : Recorded) : Row :=
  [(.text "id", .int 7), (.text "name", recorded.name),
    (.text "run_on", .text recorded.time.text)]

/-- A session whose database answers with these records, as the query asks for them. -/
def recordingSession : Session :=
  { Connect.plainSession with
    link := .plain [.answer (Statement.rowsValue (recordedMigrations.reverse.map keptRow))] }

theorem recorded_times_sort_chronologically_within_second :
    let rows := recordedMigrations.reverse.map keptRow
    let early : Timestamp := ⟨2024, 1, 2, 3, 4, 5, 6⟩
    let late : Timestamp := ⟨2024, 1, 2, 3, 4, 5, 7⟩
    recordingSession.dryRun.truthy = false ∧
      (∃ answer, stepDispatched early (.operation (.addMigrationRecord (.text "second")))
        recordingSession = [⟨"INSERT INTO \"migrations\" (name, run_on) VALUES ($1, $2)",
          some [.text "second", .text "2024-01-02 03:04:05"], answer⟩]) ∧
      early.text = late.text ∧ ¬ Before late.text.toList early.text.toList ∧
      List.Forall₂ Recorded.KeptIn recordedMigrations (recordedMigrations.map keptRow) ∧
      (∀ one ∈ recordedMigrations, one.time.Legible) ∧ Descending "run_on" rows ∧
      ∃ listed values, listed.Perm recordedMigrations ∧
        ((step ⟨2024, 1, 2, 3, 4, 5, 8⟩ (.operation .loadedMigrations)).run
          recordingSession).result = .ok (.list values) ∧
        List.Forall₂ Recorded.ListedAs listed values ∧ Recorded.MostRecentFirst listed := by
  intro rows early late
  obtain ⟨binds, compares, listing⟩ := recorded_times_sort_chronologically
  obtain ⟨read, handed, -, -, list⟩ :=
    listing recordingSession ⟨2024, 1, 2, 3, 4, 5, 8⟩ rfl
  have kept (recorded : List Recorded) :
      List.Forall₂ Recorded.KeptIn recorded (recorded.map keptRow) := by
    induction recorded with
    | nil => exact .nil
    | cons one others ih => exact .cons ⟨rfl, rfl⟩ ih
  have legible : ∀ one ∈ recordedMigrations, one.time.Legible := by
    simp only [recordedMigrations, List.forall_mem_cons]
    refine ⟨?_, ?_, ?_, by simp⟩ <;> constructor <;> decide
  obtain ⟨-, second, third, -⟩ : _ ∧ early.Legible ∧ late.Legible ∧ _ := by
    simpa only [recordedMigrations, List.forall_mem_cons] using legible
  have descending : Descending "run_on" rows := by
    refine (descending_iff (kept _) fun one member => legible one (List.mem_reverse.1 member)).2 ?_
    simp [Recorded.MostRecentFirst, recordedMigrations, Timestamp.earlier_iff]
  have answered : read.rows = .ok rows := by
    obtain rfl : _ = read := List.singleton_inj.1 (Eq.trans rfl handed)
    rfl
  obtain ⟨listed, values, same, result, each, order⟩ := list recordedMigrations _ rows
    (kept recordedMigrations) legible ((List.reverse_perm _).map keptRow) answered
  have notEarlier : ¬ late.Earlier early := by simp [early, late, Timestamp.earlier_iff]
  have template : recordingSession.engine.parameterized
      "INSERT INTO [migrations] (name, run_on) VALUES (?, ?)" =
        "INSERT INTO \"migrations\" (name, run_on) VALUES ($1, $2)" := by decide +kernel
  have text : early.text = "2024-01-02 03:04:05" := by decide +kernel
  have bound := binds recordingSession (.text "second") early rfl
  rw [template, text] at bound
  exact ⟨rfl, bound, (compares _ _ second third).2.2 rfl,
    mt (compares _ _ third second).1.1 notEarlier, kept _, legible, descending, listed, values, same,
    result, each, order.1 descending⟩

end Session

end SchemaChange
