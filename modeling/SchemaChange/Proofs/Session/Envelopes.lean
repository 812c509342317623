/-
# SchemaChange.Proofs.Session.Envelopes — operations see rows, not what the rows come in

A connection of the caller's own may hand over the rows of an answer alone, in a result
with a row count, or in a map, and the absence of rows in still other ways
(`Statement.Carries`).  Two sessions whose connections fail at the same places and answer
the same rows, each in envelopes of its own, cannot be told apart by anything but the
native results that they pass on.

`Script.Matched` relates two scripts that ask for the same whatever native results with the
same rows they are given; `Operation.script_matched` says that the script of every
operation matches itself, because each of them looks at rows only.

* `submit_together`, `fetch_together` — a statement goes the same way in both sessions, and
  a query gives both the same rows.
* `perform_together`, `step_together`, `runAll_twins` — so do scripts, steps and runs.
* `envelopes_make_no_difference` — for the sessions that connecting gives.
-/
import Mathlib.Data.List.Defs
import SchemaChange.Proofs.Operation.Bookkeeping
import SchemaChange.Proofs.Operation.Statements
import SchemaChange.Proofs.Session.Opening
import SchemaChange.Proofs.Session.Run

set_option autoImplicit false

namespace SchemaChange

namespace Statement

/-- A native result carries rows: alone, in a result with a row count, or under the key of rows in
a map with any other keys; no rows may also come as null, as a count, or as a map without the
key. -/
inductive Carries (rows : List Row) : Value → Prop
  | alone : Carries rows (rowsValue rows)
  | result (rowcount : Int) : Carries rows (.result (rowsValue rows) rowcount)
  | keyed {entries : Entries} (here : entries.get? "rows" = some (rowsValue rows)) :
      Carries rows (.map entries)
  | null (none : rows = []) : Carries rows .null
  | count (none : rows = []) (number : Int) : Carries rows (.int number)
  | unkeyed (none : rows = []) {entries : Entries} (absent : entries.get? "rows" = .none) :
      Carries rows (.map entries)

/-- The rows that a native result carries are those that are read from it. -/
theorem Carries.normalizeRows {rows : List Row} {answer : Value} (carries : Carries rows answer) :
    normalizeRows answer = .ok rows := by
  cases carries with
  | alone => exact normalizeRows_rowsValue rows
  | result rowcount => exact normalizeRows_rowsValue rows
  | @keyed entries here =>
      have found : carried (.map entries) = rowsValue rows := by
        simp [carried, Entries.getD, here]
      rw [Statement.normalizeRows, found]
      exact normalizeRows_rowsValue rows
  | null none => rw [none]; rfl
  | count none number => rw [none]; rfl
  | @unkeyed none entries absent =>
      have nothing : carried (.map entries) = .null := by
        simp [carried, Entries.getD, absent]
      rw [Statement.normalizeRows, nothing, none]

/-- The same rows are read from two native results, or reading fails in the same way. -/
def SameRows (first second : Value) : Prop :=
  normalizeRows first = normalizeRows second

theorem SameRows.refl (answer : Value) : SameRows answer answer := rfl

end Statement

open SchemaChange.Statement (Carries SameRows)

namespace PlainReply

/-- Two replies of the caller's own connection fail alike, or carry the same rows, each in an
envelope of its own. -/
inductive SameContent : PlainReply → PlainReply → Prop
  | answer {rows : List Statement.Row} {first second : Value} (here : Carries rows first)
      (there : Carries rows second) : SameContent (.answer first) (.answer second)
  | refusal (message : String) (engineName : Value) :
      SameContent (.refusal message engineName) (.refusal message engineName)
  | breakdown (message : String) : SameContent (.breakdown message) (.breakdown message)

end PlainReply

/-! ## Scripts that look at rows only -/

namespace Script

/-- Two scripts ask for the same whatever native results they are given, as long as the two have
the same rows, and end with the same failure or with related answers. -/
inductive Matched {α : Type} (related : α → α → Prop) : Script α → Script α → Prop
  | answered {first second : α} (same : related first second) :
      Matched related (.done (.ok first)) (.done (.ok second))
  | failed (failure : Failure) : Matched related (.done (.error failure)) (.done (.error failure))
  | note (n : Note) {first second : Script α} (later : Matched related first second) :
      Matched related (.note n first) (.note n second)
  | submit {template params : Value} {first second : Value → Script α}
      (later : ∀ value other, SameRows value other → Matched related (first value) (second other)) :
      Matched related (.submit template params first) (.submit template params second)
  | fetch {template params : Value} {first second : List Statement.Row → Script α}
      (later : ∀ rows, Matched related (first rows) (second rows)) :
      Matched related (.fetch template params first) (.fetch template params second)
  | askDryRun {first second : Bool → Script α}
      (later : ∀ dry, Matched related (first dry) (second dry)) :
      Matched related (.askDryRun first) (.askDryRun second)

namespace Matched

variable {α : Type} {related : α → α → Prop}

/-- Answers that are related are related in every weaker way. -/
theorem mono {weaker : α → α → Prop} (implies : ∀ {a b}, related a b → weaker a b)
    {first second : Script α} (matched : Matched related first second) :
    Matched weaker first second := by
  induction matched with
  | answered same => exact .answered (implies same)
  | failed failure => exact .failed failure
  | note n later ih => exact .note n ih
  | submit later ih => exact .submit ih
  | fetch later ih => exact .fetch ih
  | askDryRun later ih => exact .askDryRun ih

theorem notes (notes : List Note) {first second : Script α} (later : Matched related first second) :
    Matched related (Script.notes notes first) (Script.notes notes second) := by
  induction notes with
  | nil => exact later
  | cons n notes ih => exact .note n ih

/-- A statement whose native result is the answer. -/
theorem run (template params : Value) :
    Matched SameRows (.submit template params pure) (.submit template params pure) :=
  .submit fun _ _ same => .answered same

/-- A plan answers what its last statement gives, and looks at nothing else. -/
theorem plan (statements : List String) :
    Matched SameRows (Script.runAll statements) (Script.runAll statements) := by
  induction statements with
  | nil => exact .answered rfl
  | cons statement rest ih =>
      cases rest with
      | nil => exact .run _ _
      | cons next rest =>
          rw [Script.runAll_cons]
          exact .submit fun _ _ _ => ih

theorem ofStatements (rendering : Noted (List String)) :
    Matched SameRows (Script.ofStatements rendering) (Script.ofStatements rendering) := by
  cases rendered : rendering.result with
  | ok plan =>
      rw [Script.ofStatements_of_ok rendered]
      exact .notes _ (.plan plan)
  | error failure =>
      rw [Script.ofStatements_of_error rendered]
      exact .notes _ (.failed failure)

end Matched

end Script

/-- Whether an operation answers what it reads from rows and not a native result. -/
def Operation.readsRows : Operation → Bool
  | .query .. | .loadedMigrations => true
  | _ => false

/-- Two answers of an operation are the same, or native results with the same rows. -/
def Operation.Agree (operation : Operation) (first second : Value) : Prop :=
  SameRows first second ∧ (operation.readsRows = true → first = second)

/-- The migrations table is created, or not, by the rows of the catalog. -/
theorem Engine.lookUp_matched (engine : Engine) (mayExist : Bool) :
    Script.Matched SameRows (engine.lookUp mayExist) (engine.lookUp mayExist) := by
  apply Script.Matched.fetch
  intro rows
  unfold Engine.createUnlisted
  split
  · rw [Script.runRendered_eq]
    exact .ofStatements _
  · exact .note _ (.answered rfl)

theorem Engine.createMigrationsTable_matched (engine : Engine) :
    Script.Matched SameRows engine.createMigrationsTable engine.createMigrationsTable := by
  rw [Engine.createMigrationsTable_eq]
  cases engine with
  | mysql => exact Engine.lookUp_matched .mysql true
  | sqlite => exact Engine.lookUp_matched .sqlite true
  | postgres =>
      apply Script.Matched.fetch
      intro rows
      unfold Engine.afterVersion
      cases Engine.reportedVersion rows with
      | ok version => exact .notes _ (Engine.lookUp_matched .postgres _)
      | error failure => exact .failed failure

/-- MySQL renames a column, or not, by the rows of the catalog. -/
theorem Engine.renameByCatalogType_matched (engine : Engine) (table column newColumn : Value) :
    Script.Matched SameRows (engine.renameByCatalogType table column newColumn)
      (engine.renameByCatalogType table column newColumn) := by
  apply Script.Matched.fetch
  intro rows
  cases rows with
  | nil =>
      apply Script.Matched.askDryRun
      intro dry
      cases dry with
      | true => exact .note _ (.answered rfl)
      | false => exact .failed _
  | cons row rest => exact .run _ _

/-- The records of the migrations table are read from rows. -/
theorem Engine.loadedMigrations_matched :
    Script.Matched (· = ·) Engine.loadedMigrations Engine.loadedMigrations := by
  have read (outcome : Attempt (List MigrationRecord)) : Script.Matched (· = ·)
      (Script.bind (.done outcome) fun records =>
        pure (Value.list (records.map MigrationRecord.toValue)))
      (Script.bind (.done outcome) fun records =>
        pure (Value.list (records.map MigrationRecord.toValue))) := by
    cases outcome with
    | ok records => exact .answered rfl
    | error failure => exact .failed failure
  exact .fetch fun rows => read _

/-- **Every operation looks at rows only.** -/
theorem Operation.script_matched (engine : Engine) (now : Timestamp) (operation : Operation) :
    Script.Matched operation.Agree (operation.script engine now) (operation.script engine now) := by
  have native (passes : operation.readsRows = false) {script : Script Value}
      (matched : Script.Matched SameRows script script) :
      Script.Matched operation.Agree script script :=
    matched.mono fun same => ⟨same, fun reads => by rw [passes] at reads; cases reads⟩
  have exactly {script : Script Value} (matched : Script.Matched (· = ·) script script) :
      Script.Matched operation.Agree script script :=
    matched.mono fun same => ⟨congrArg Statement.normalizeRows same, fun _ => same⟩
  have delimited (statement : String) :
      Script.Matched SameRows (engine.delimit statement) (engine.delimit statement) := by
    cases engine with
    | postgres => exact .run _ _
    | mysql => exact .answered rfl
    | sqlite => exact .answered rfl
  cases renders : operation.statements? engine with
  | some rendering =>
      rw [Operation.script_eq_statements renders]
      apply native
      · cases operation <;> first | rfl | cases renders
      · exact .ofStatements rendering
  | none =>
      cases operation with
      | renameColumn table column newColumn =>
          cases engine with
          | mysql => exact native rfl (Engine.renameByCatalogType_matched .mysql _ _ _)
          | postgres => cases renders
          | sqlite => cases renders
      | createMigrationsTable => exact native rfl engine.createMigrationsTable_matched
      | addMigrationRecord name => exact native rfl (.run _ _)
      | loadedMigrations => exact exactly Engine.loadedMigrations_matched
      | run template params => exact native rfl (.run _ _)
      | query template params => exact exactly (.fetch fun _ => .answered rfl)
      | startMigration => exact native rfl (delimited _)
      | endMigration => exact native rfl (delimited _)
      | quote identifier => exact native rfl (.answered rfl)
      | _ => cases renders

/-! ## Two sessions side by side -/

namespace Session

variable {α β : Type} {first second : Session} {related : α → α → Prop}

/-- Two sessions differ in nothing but the replies of their connections, which are the caller's own
and which carry the same rows. -/
structure Twins (first second : Session) : Prop where
  engine : second.engine = first.engine
  dryRun : second.dryRun = first.dryRun
  logging : second.logging = first.logging
  closed : second.closed = first.closed
  closing : second.closing = first.closing
  replies : ∃ here there, first.link = .plain here ∧ second.link = .plain there ∧
    List.Forall₂ PlainReply.SameContent here there

/-- Two outcomes cannot be told apart but for their answers, which are related. -/
structure Together (related : α → α → Prop) (first second : Outcome Failure Session Event α) :
    Prop where
  events : first.events = second.events
  twins : Twins first.state second.state
  result : (∃ failure, first.result = .error failure ∧ second.result = .error failure) ∨
    ∃ a b, first.result = .ok a ∧ second.result = .ok b ∧ related a b

/-- Twins that do the same are together. -/
theorem Twins.together (twins : Twins first second) (reflexive : ∀ a, related a a)
    (result : Attempt α) (events : List Event) :
    Together related ⟨result, events, first⟩ ⟨result, events, second⟩ := by
  refine ⟨rfl, twins, ?_⟩
  cases result with
  | ok a => exact .inr ⟨a, a, rfl, rfl, reflexive a⟩
  | error failure => exact .inl ⟨failure, rfl, rfl⟩

/-- What stays together and goes on together is together. -/
theorem Together.bind {further : β → β → Prop} {here there : Doing α} {next later : α → Doing β}
    (head : Together related (here.run first) (there.run second))
    (tail : ∀ a b, related a b → ∀ s t, Twins s t →
      Together further ((next a).run s) ((later b).run t)) :
    Together further ((here >>= next).run first) ((there >>= later).run second) := by
  rcases head.result with ⟨failure, refused, refused'⟩ | ⟨a, b, answered, answered', same⟩
  · rw [Act.run_bind_error refused, Act.run_bind_error refused']
    exact ⟨head.events, head.twins, .inl ⟨failure, rfl, rfl⟩⟩
  · have rest := tail a b same _ _ head.twins
    rw [Act.run_bind_ok answered, Act.run_bind_ok answered']
    refine ⟨?_, rest.twins, rest.result⟩
    show _ ++ _ = _ ++ _
    rw [head.events, rest.events]

/-- What the caller's own connections make of a statement. -/
theorem handle_together (twins : Twins first second) (sql : String)
    (values : Option (List Value)) :
    Together SameRows (first.handle sql values) (second.handle sql values) := by
  rcases Bool.eq_false_or_eq_true first.dryRun.truthy with dry | live
  · rw [handle_dry dry, handle_dry (twins.dryRun ▸ dry)]
    exact twins.together SameRows.refl _ _
  rcases Bool.eq_false_or_eq_true first.closed with closed | opened
  · rw [handle_closed live closed, handle_closed (twins.dryRun ▸ live) (twins.closed ▸ closed),
      twins.engine]
    exact twins.together SameRows.refl _ _
  obtain ⟨here, there, plain, plain', replies⟩ := twins.replies
  rw [handle_open live opened, handle_open (twins.dryRun ▸ live) (twins.closed ▸ opened), plain,
    plain']
  have still (left right : List PlainReply) (rest : List.Forall₂ PlainReply.SameContent left right) :
      Twins { first with link := .plain left } { second with link := .plain right } :=
    ⟨twins.engine, twins.dryRun, twins.logging, twins.closed, twins.closing, left, right, rfl, rfl,
      rest⟩
  cases replies with
  | nil => exact (still [] [] .nil).together SameRows.refl _ _
  | @cons reply other rest others same later =>
      cases same with
      | @answer rows value value' carries carries' =>
          refine ⟨rfl, still rest others later, .inr ⟨value, value', rfl, rfl, ?_⟩⟩
          exact carries.normalizeRows.trans carries'.normalizeRows.symm
      | refusal message engineName =>
          exact (still rest others later).together SameRows.refl _ _
      | breakdown message => exact (still rest others later).together SameRows.refl _ _

/-- **A statement goes the same way in both sessions.** -/
theorem submit_together (twins : Twins first second) (template params : Value) :
    Together SameRows ((submit template params).run first)
      ((submit template params).run second) := by
  rcases submit_cases template params first with
    ⟨failure, prepared, run⟩ | ⟨sql, failure, prepared, listed, run⟩ |
      ⟨sql, values, prepared, listed, run⟩
  · rw [run, run_submit_unprepared (twins.engine ▸ prepared)]
    exact twins.together SameRows.refl _ _
  · rw [run, run_submit_unlisted (twins.engine ▸ prepared) listed, twins.logging, Logging.record,
      List.append_nil]
    exact twins.together SameRows.refl _ _
  · have after := handle_together twins sql values
    rw [run, run_submit_announced (twins.engine ▸ prepared) listed, twins.logging]
    refine ⟨?_, after.twins, after.result⟩
    show _ ++ _ = _ ++ _
    rw [after.events]

/-- **A query gives both sessions the same rows.** -/
theorem fetch_together (twins : Twins first second) (template params : Value) :
    Together (· = ·) ((fetch template params).run first) ((fetch template params).run second) := by
  rw [run_fetch, run_fetch]
  apply Together.bind (submit_together twins template params)
  intro answer other same s t pair
  have rows : Statement.normalizeRows other = Statement.normalizeRows answer := same.symm
  rw [Act.run_lift, Act.run_lift, rows]
  exact pair.together (fun _ => rfl) _ _

/-- **Matched scripts stay together.** -/
theorem perform_together {script other : Script α} (matched : Script.Matched related script other)
    (twins : Twins first second) :
    Together related ((perform script).run first) ((perform other).run second) := by
  induction matched generalizing first second with
  | answered same => exact ⟨rfl, twins, .inr ⟨_, _, rfl, rfl, same⟩⟩
  | failed failure => exact ⟨rfl, twins, .inl ⟨failure, rfl, rfl⟩⟩
  | note n later ih =>
      have noted : Together (· = ·) ((note n).run first) ((note n).run second) := by
        rw [run_note, run_note, twins.logging]
        exact twins.together (fun _ => rfl) _ _
      exact .bind noted fun _ _ _ _ _ pair => ih pair
  | submit later ih =>
      exact .bind (submit_together twins _ _) fun value other same _ _ pair =>
        ih value other same pair
  | fetch later ih =>
      apply Together.bind (fetch_together twins _ _)
      rintro rows _ rfl s t pair
      exact ih rows pair
  | askDryRun later ih =>
      rw [perform, perform, Act.run_get_bind, Act.run_get_bind, twins.dryRun]
      exact ih first.dryRun.truthy twins

end Session

/-- Whether a step answers what it reads from rows. -/
def Step.readsRows : Step → Bool
  | .operation asked => asked.readsRows
  | .close | .expireCursor => false

namespace Session

variable {first second : Session}

/-- **A step stays together**, and answers the same if it answers rows. -/
theorem step_together (twins : Twins first second) (now : Timestamp) (next : Step) :
    Together (fun answer other => next.readsRows = true → answer = other)
      ((step now next).run first) ((step now next).run second) := by
  cases next with
  | operation operation =>
      rw [run_step_operation, run_step_operation, twins.engine]
      have together := perform_together (operation.script_matched first.engine now) twins
      refine ⟨together.events, together.twins, together.result.imp_right ?_⟩
      rintro ⟨a, b, answered, answered', agree⟩
      exact ⟨a, b, answered, answered', agree.2⟩
  | expireCursor =>
      obtain ⟨here, there, plain, plain', replies⟩ := twins.replies
      have still : Twins { first with link := .plain here } { second with link := .plain there } :=
        ⟨twins.engine, twins.dryRun, twins.logging, twins.closed, twins.closing, here, there, rfl,
          rfl, replies⟩
      rw [run_step_expireCursor, run_step_expireCursor, plain, plain']
      exact still.together (fun _ _ => rfl) _ _
  | close =>
      rw [run_step_close, run_step_close]
      rcases Bool.eq_false_or_eq_true first.closed with closed | opened
      · rw [run_close_of_closed closed, run_close_of_closed (twins.closed ▸ closed), twins.logging,
          twins.engine]
        exact twins.together (fun _ _ => rfl) _ _
      · obtain ⟨here, there, plain, plain', replies⟩ := twins.replies
        have still : Twins { first with closed := true, link := .plain here }
            { second with closed := true, link := .plain there } :=
          ⟨twins.engine, twins.dryRun, twins.logging, rfl, twins.closing, here, there, rfl, rfl,
            replies⟩
        have same : Link.close second.closing = Link.close first.closing := by rw [twins.closing]
        rw [run_close_of_open opened, run_close_of_open (twins.closed ▸ opened), plain, plain', same]
        exact still.together (fun _ _ => rfl) _ _

/-- Over a run the two sessions do the same and stay twins. -/
theorem runAll_twins (twins : Twins first second) (steps : List (Timestamp × Step)) :
    seen steps first = seen steps second ∧ Twins (runAll steps first).2 (runAll steps second).2 := by
  induction steps generalizing first second with
  | nil => exact ⟨rfl, twins⟩
  | cons head rest ih =>
      obtain ⟨now, next⟩ := head
      have here := step_together twins now next
      obtain ⟨same, last⟩ := ih here.twins
      refine ⟨?_, last⟩
      rw [seen_cons, seen_cons, here.events, same]

/-- Connecting to two connections of the caller's own that carry the same rows gives twins. -/
theorem initial_twins {met : Surroundings} {others : List PlainReply} {config : Config}
    (logging : Logging) (plain : config.connection = .connection .plain)
    (alike : List.Forall₂ PlainReply.SameContent met.plainReplies others) :
    Twins (Connect.initial met logging config)
      (Connect.initial { met with plainReplies := others } logging config) := by
  refine ⟨rfl, rfl, rfl, rfl, rfl, met.plainReplies, others, ?_, ?_, alike⟩
  · rw [Connect.initial, Connect.initialLink, plain]
  · rw [Connect.initial, Connect.initialLink, plain]

/-- **Envelopes make no difference.**  Take two sessions of one configuration, each over a
connection of the caller's own, whose replies fail at the same places with the same errors and
elsewhere carry the same rows, each in any envelope.  Over every run the two ask their connections
for the same statements with the same parameters in the same order, record the same, and are closed
at the same places; and wherever the run stands, every further step does the same in both, fails in
both with the same failure or in neither, and answers the same if it answers rows. -/
theorem envelopes_make_no_difference {met : Surroundings} {others : List PlainReply}
    {logging : Logging} {source : Source} {config : Config} {first second : Session}
    (read : Connect.readSource source = .ok config)
    (plain : config.connection = .connection .plain)
    (alike : List.Forall₂ PlainReply.SameContent met.plainReplies others)
    (opened : ((Connect.connect met logging source).run ()).result = .ok first)
    (openedOther : ((Connect.connect { met with plainReplies := others } logging source).run
      ()).result = .ok second)
    (steps : List (Timestamp × Step)) :
    seen steps first = seen steps second ∧
      ∀ now next,
        let here := (step now next).run (runAll steps first).2
        let there := (step now next).run (runAll steps second).2
        here.events = there.events ∧ here.state.closed = there.state.closed ∧
          here.failure? = there.failure? ∧ (next.readsRows = true → here.result = there.result) := by
  obtain ⟨found, same, rfl⟩ := Connect.connect_eq_ok opened
  obtain ⟨foundOther, sameOther, rfl⟩ := Connect.connect_eq_ok openedOther
  obtain rfl : config = found := by rw [read] at same; cases same; rfl
  obtain rfl : config = foundOther := by rw [read] at sameOther; cases sameOther; rfl
  obtain ⟨events, last⟩ := runAll_twins (initial_twins logging plain alike) steps
  refine ⟨events, ?_⟩
  intro now next here there
  have together := step_together last now next
  refine ⟨together.events, together.twins.closed.symm, ?_⟩
  rcases together.result with ⟨failure, refused, refused'⟩ | ⟨a, b, answered, answered', agree⟩
  · constructor
    · simp only [here, there, Outcome.failure?, refused, refused']
    · intro _
      rw [refused, refused']
  · constructor
    · simp only [here, there, Outcome.failure?, answered, answered']
    · intro reads
      rw [answered, answered', agree reads]

/-- The row in which the catalog gives the type of a column. -/
def typeRow : Statement.Row :=
  [(.text "COLUMN_TYPE", .text "int")]

/-- A connection that hands over its rows alone, and null where there are none. -/
def barePlain : Surroundings :=
  { Connect.quietSurroundings with
    plainReplies := [.answer (Statement.rowsValue [typeRow]), .answer .null] }

/-- The same replies, in a map, and as a count where there are no rows. -/
def wrappedReplies : List PlainReply :=
  [.answer (.map [(.text "count", .int 1), (.text "rows", Statement.rowsValue [typeRow])]),
    .answer (.int 0)]

theorem envelopes_make_no_difference_rename :
    let config := Connect.plainConfig .mysql (.connection .plain) (.bool false)
    let met := { barePlain with plainReplies := wrappedReplies }
    let first := Connect.initial barePlain ⟨5, true⟩ config
    let second := Connect.initial met ⟨5, true⟩ config
    let now : Timestamp := ⟨2024, 1, 2, 3, 4, 5, 6⟩
    let steps := [(now, Step.operation (.renameColumn (.text "t") (.text "a") (.text "b")))]
    Connect.readSource (.config config) = .ok config ∧ config.connection = .connection .plain ∧
      List.Forall₂ PlainReply.SameContent barePlain.plainReplies wrappedReplies ∧
      ((Connect.connect barePlain ⟨5, true⟩ (.config config)).run ()).result = .ok first ∧
      ((Connect.connect met ⟨5, true⟩ (.config config)).run ()).result = .ok second ∧
      seen steps first = seen steps second ∧
      ((step now (.operation (.query (.text "select 1") .null))).run (runAll steps first).2).result
        = ((step now (.operation (.query (.text "select 1") .null))).run
          (runAll steps second).2).result := by
  intro config met first second now steps
  have read : Connect.readSource (.config config) = .ok config := rfl
  have alike : List.Forall₂ PlainReply.SameContent barePlain.plainReplies wrappedReplies :=
    .cons (.answer .alone (.keyed rfl)) (.cons (.answer (.null rfl) (.count rfl 0)) .nil)
  have opened : ((Connect.connect barePlain ⟨5, true⟩ (.config config)).run ()).result
      = .ok first := rfl
  have openedOther : ((Connect.connect met ⟨5, true⟩ (.config config)).run ()).result
      = .ok second := rfl
  obtain ⟨events, further⟩ :=
    envelopes_make_no_difference read rfl alike opened openedOther steps
  obtain ⟨-, -, -, rows⟩ := further now (.operation (.query (.text "select 1") .null))
  exact ⟨read, rfl, alike, opened, openedOther, events, rows rfl⟩

end Session

end SchemaChange
