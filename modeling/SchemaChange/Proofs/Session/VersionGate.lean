/-
# SchemaChange.Proofs.Session.VersionGate — a clause that depends on the server

PostgreSQL creates the migrations table behind two reads: the version of the server, and the
catalog.  Where the catalog lists nothing, one statement follows, and the version decides only
whether that statement asks for the table unless it exists.

* `received_lookUp` — behind a catalog that lists nothing, the connection receives the statement.
* `received_createMigrationsTable` — so it does behind a version that can be read.
* `version_decides_clause` — the version is the one at the leftmost place in what the server says,
  and the clause is there exactly if that version is not before 9.1.0.
-/
import SchemaChange.Proofs.Operation.Bookkeeping
import SchemaChange.Proofs.Operation.TableShape
import SchemaChange.Proofs.ServerVersion.Leftmost

set_option autoImplicit false

namespace SchemaChange

open SchemaChange.Statement (Row)
open SchemaChange.ServerVersion (Place)
open SchemaChange.Text (RunsWithin)

namespace Engine

/-- The statement that creates the migrations table, behind its clause. -/
def migrationsTableRest (engine : Engine) : String :=
  engine.identifier (.text migrationsTable) ++ " (" ++ engine.migrationsTableColumns ++ ")"

theorem migrationsTableStatement_eq (engine : Engine) (mayExist : Bool) :
    engine.migrationsTableStatement mayExist =
      "CREATE TABLE " ++ (if mayExist then "IF NOT EXISTS " else "") ++
        engine.migrationsTableRest := by
  rw [migrationsTableStatement, migrationsTableRest]
  simp only [String.append_assoc]

/-- The statement that creates the migrations table for PostgreSQL has no brackets. -/
theorem withoutBrackets_migrationsTable (mayExist : Bool) :
    withoutBrackets .postgres (migrationsTableStatement .postgres mayExist) =
      migrationsTableStatement .postgres mayExist := by
  rw [withoutBrackets_eq_self_iff]
  cases mayExist <;> decide +kernel

/-- It contains the clause only where that is put. -/
theorem contains_clause_iff (mayExist : Bool) :
    "IF NOT EXISTS".toList <:+: (migrationsTableStatement .postgres mayExist).toList ↔
      mayExist = true := by
  cases mayExist <;> decide +kernel

/-- A server whose version has been read supports the clause if that version is recent enough. -/
theorem versionSupports_iff (version : Option ServerVersion) :
    versionSupports version = true ↔
      ∃ found, version = some found ∧ ¬ List.Lex (· < ·) found.numbers ifNotExistsSince.numbers := by
  cases version with
  | none => simp [versionSupports]
  | some found =>
      rw [versionSupports, Option.any_some, ServerVersion.le_iff]
      simp

end Engine

namespace Session

variable {session : Session}

/-- The look into the catalog for the migrations table. -/
def catalogRead (engine : Engine) : Doing (List Row) :=
  fetch (.text engine.catalogQuery) (.list [.text migrationsTable])

/-- Behind a catalog that lists nothing, the connection receives the statement that creates the
table. -/
theorem received_lookUp (ready : session.Ready) (mayExist : Bool)
    (unlisted : ((catalogRead session.engine).run session).result = .ok []) :
    received ((perform (session.engine.lookUp mayExist)).run session).events =
      received ((catalogRead session.engine).run session).events ++
        [session.engine.withoutBrackets (session.engine.migrationsTableStatement mayExist)] := by
  have ready' : ((catalogRead session.engine).run session).state.Ready := fetch_ready ready _ _
  have engine : ((catalogRead session.engine).run session).state.engine = session.engine := by
    rw [catalogRead, fetch_framed]
  obtain ⟨notes, creation⟩ := session.engine.createUnlisted_nil mayExist
  have written := received_submit ready' (session.engine.migrationsTableStatement mayExist)
  rw [engine] at written
  have run : (perform (session.engine.lookUp mayExist)).run session =
      (catalogRead session.engine >>= fun rows =>
        perform (session.engine.createUnlisted mayExist rows)).run session := rfl
  rw [run, Act.run_bind_ok unlisted, received_append, creation, run_perform_notes, received_append,
    received_notes, perform_run, List.nil_append]
  exact congrArg _ written

/-- Behind a version that can be read and a catalog that lists nothing, the version decides which
statement creates the table. -/
theorem received_createMigrationsTable (ready : session.Ready) (now : Timestamp)
    (postgres : session.engine = .postgres) {rows : List Row} {version : Option ServerVersion}
    (asked : ((fetch (.text Engine.versionQuery) .null).run session).result = .ok rows)
    (reported : Engine.reportedVersion rows = .ok version)
    (unlisted : ((catalogRead .postgres).run
      ((fetch (.text Engine.versionQuery) .null).run session).state).result = .ok []) :
    received ((step now (.operation .createMigrationsTable)).run session).events =
      received ((fetch (.text Engine.versionQuery) .null).run session).events ++
        received ((catalogRead .postgres).run
          ((fetch (.text Engine.versionQuery) .null).run session).state).events ++
        [Engine.migrationsTableStatement .postgres (Engine.versionSupports version)] := by
  have ready' := fetch_ready ready (.text Engine.versionQuery) .null
  have engine : ((fetch (.text Engine.versionQuery) .null).run session).state.engine = .postgres := by
    rw [fetch_framed, postgres]
  have goesOn : Engine.afterVersion rows = Script.notes (Engine.versionNotes version rows)
      (Engine.lookUp .postgres (Engine.versionSupports version)) := by
    rw [Engine.afterVersion, reported]
  rw [← engine] at unlisted
  have looked := received_lookUp ready' (Engine.versionSupports version) unlisted
  rw [engine, Engine.withoutBrackets_migrationsTable] at looked
  have script : Operation.script session.engine now .createMigrationsTable =
      .fetch (.text Engine.versionQuery) .null Engine.afterVersion := by
    rw [postgres]
    exact Engine.createMigrationsTable_eq .postgres
  rw [run_step_operation, script, perform, Act.run_bind_ok asked, received_append, goesOn,
    run_perform_notes, received_append, received_notes, List.nil_append, looked, List.append_assoc]

/-- **The version of the server decides whether the migrations table is created unless it exists.**
A text with no too long runs of digits is read as the version at its leftmost place, and as none
exactly if it has no place.  Over every ready PostgreSQL session whose server answers with such a
text and whose catalog lists nothing, the connection receives one statement behind the two reads; it
contains the clause exactly if there is a leftmost place and its version is not before 9.1.0, and is
the same in both cases but for the clause. -/
theorem version_decides_clause (text : String) (within : RunsWithin 4000 text.toList) :
    (∃ version, ServerVersion.ofValue (.text text) = .ok version ∧
      (∀ found, version = some found ↔
        ∃ place : Place text.toList, place.Leftmost ∧ place.version = found) ∧
      (version = none ↔ ¬ Nonempty (Place text.toList))) ∧
    ∀ (session : Session) (now : Timestamp) (row : Row) (rows : List Row), session.Ready →
      session.engine = .postgres →
      let asked := (fetch (.text "select version() as version") .null).run session
      let looked := (catalogRead .postgres).run asked.state
      asked.result = .ok (row :: rows) → row.getD "version" (.text "") = .text text →
      looked.result = .ok [] →
      ∃ clause,
        received ((step now (.operation .createMigrationsTable)).run session).events =
          received asked.events ++ received looked.events ++
            ["CREATE TABLE " ++ clause ++ Engine.migrationsTableRest .postgres] ∧
        (clause = "IF NOT EXISTS " ∨ clause = "") ∧
        ("IF NOT EXISTS".toList <:+:
            ("CREATE TABLE " ++ clause ++ Engine.migrationsTableRest .postgres).toList ↔
          ∃ place : Place text.toList,
            place.Leftmost ∧ ¬ List.Lex (· < ·) place.version.numbers [9, 1, 0]) := by
  obtain ⟨version, understood, leftmost, nowhere⟩ :=
    ServerVersion.ofValue_leftmost (by decide : 4000 ≤ Numeral.maxDigits) within
  refine ⟨⟨version, understood, leftmost, nowhere⟩, ?_⟩
  intro session now row rows ready postgres asked looked answered said unlisted
  have reported : Engine.reportedVersion (row :: rows) = .ok version := by
    rw [Engine.reportedVersion, said, ← understood, ServerVersion.ofValue_text]
    rfl
  have arrived := received_createMigrationsTable ready now postgres answered reported unlisted
  have supported : Engine.versionSupports version = true ↔
      ∃ place : Place text.toList,
        place.Leftmost ∧ ¬ List.Lex (· < ·) place.version.numbers [9, 1, 0] := by
    rw [Engine.versionSupports_iff]
    constructor
    · rintro ⟨found, same, recent⟩
      obtain ⟨place, first, rfl⟩ := (leftmost found).1 same
      exact ⟨place, first, recent⟩
    · rintro ⟨place, first, recent⟩
      exact ⟨place.version, (leftmost _).2 ⟨place, first, rfl⟩, recent⟩
  have contains := (Engine.contains_clause_iff _).trans supported
  rw [Engine.migrationsTableStatement_eq] at arrived contains
  refine ⟨_, arrived, ?_, contains⟩
  cases Engine.versionSupports version
  · exact .inr rfl
  · exact .inl rfl

/-- A PostgreSQL server of version 9.1.0 without a migrations table. -/
def reportingSession : Session :=
  { Connect.plainSession with
    link := .plain [.answer (.list [.map [(.text "version", .text "PostgreSQL 9.1.0")]])] }

theorem version_decides_clause_reported :
    let looked := (catalogRead .postgres).run
      ((fetch (.text "select version() as version") .null).run reportingSession).state
    reportingSession.Ready ∧ looked.result = .ok [] ∧
      received ((step ⟨2024, 1, 2, 3, 4, 5, 6⟩ (.operation .createMigrationsTable)).run
        reportingSession).events =
        ["select version() as version"] ++ received looked.events ++
          ["CREATE TABLE " ++ "IF NOT EXISTS " ++ Engine.migrationsTableRest .postgres] := by
  intro looked
  have ready : reportingSession.Ready := ⟨rfl, rfl, trivial⟩
  have unlisted : looked.result = .ok [] := rfl
  obtain ⟨⟨version, understood, leftmost, -⟩, gate⟩ := version_decides_clause "PostgreSQL 9.1.0"
    (Text.runsWithin_of_length (by decide))
  obtain ⟨clause, arrived, oneOf, contains⟩ := gate reportingSession ⟨2024, 1, 2, 3, 4, 5, 6⟩ _ _
    ready rfl rfl rfl unlisted
  have known : ServerVersion.ofValue (.text "PostgreSQL 9.1.0") = .ok (some ⟨9, 1, 0⟩) :=
    rfl
  obtain rfl := Except.ok.inj (understood.symm.trans known)
  obtain ⟨place, first, same⟩ := (leftmost _).1 rfl
  have there := contains.2 ⟨place, first, by rw [same]; decide⟩
  rcases oneOf with rfl | rfl
  · exact ⟨ready, unlisted, arrived⟩
  · exact absurd there (by decide +kernel)

end Session

end SchemaChange
