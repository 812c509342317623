/-
# SchemaChange.Proofs.Session.Audit — the statement log is an audit trail

What a ready session records and what it submits go together: a record is followed at
once by the one submission of what was recorded, which may be the last thing that
happens, and nothing is submitted without its record.  `Trail` is the grammar of such
events, together with how they end; `Submission` says what a submission is for every
connection.

* `Link.query_submits` — a query is a submission.
* `Trail.append`, `submit_audited` — trails compose, and a statement leaves one.
* `raised` — the errors that a client library raises over events: where it refuses an
  execution, and where rows are fetched that it withholds.
* `Trail.raises` — every error that it raises ends the trail with the report that the
  statement of the latest record failed.
* `audit_trail` — every operation of every run up to a close leaves a trail.
* `unlistable_parameters_unsent` — the one kind of record without a submission.
-/
import SchemaChange.Proofs.Session.Ready

set_option autoImplicit false

namespace SchemaChange

namespace Value

/-- The only reason why a value has no items is its kind. -/
theorem items_eq_error {value : Value} {failure : Failure} (none : value.items = .error failure) :
    failure = .misuse .wrongKind := by
  cases value <;> cases none <;> rfl

/-- A value that counts as true and has items has some. -/
theorem items_ne_nil {value : Value} {items : List Value} (given : value.truthy = true)
    (listed : value.items = .ok items) : items ≠ [] := by
  cases value with
  | text s =>
      cases listed
      intro none
      have empty : s.toList = [] := List.map_eq_nil_iff.1 none
      have blank : s = "" := String.toList_inj.1 empty
      subst blank
      cases given
  | kind k =>
      cases listed
      cases k <;> exact List.cons_ne_nil _ _
  | list members =>
      cases listed
      intro none
      subst none
      cases given
  | map entries =>
      cases listed
      intro none
      have empty : entries = [] := List.map_eq_nil_iff.1 none
      subst empty
      cases given
  | _ => cases listed

end Value

/-! ## Submissions -/

/-- What hands a statement to a connection once: the query of the caller's own connection, or the
executions by which an adapter answers it, after the making of a cursor if it has none to use. -/
inductive Submission (engine : Engine) (sql : String) (values : Option (List Value)) :
    Link → List Event → Option Failure → Link → Prop
  | answered {replies rest : List PlainReply} {value : Value}
      (taken : Link.takeReply sql replies = (.ok value, rest)) :
      Submission engine sql values (.plain replies) [.query sql values] none (.plain rest)
  | refused {replies rest : List PlainReply} {failure : Failure}
      (taken : Link.takeReply sql replies = (.error failure, rest)) :
      Submission engine sql values (.plain replies) [.query sql values] (some failure) (.plain rest)
  | client {own : Adapter} {events : List Event} {fault : Option AdapterError}
      {replies : List CursorReply} (kind : own.engine = engine)
      (conducted : Conducted engine (own.executions sql values) own.replies events fault replies) :
      Submission engine sql values (.adapter own) (own.cursorEvents ++ events)
        (fault.map (Adapter.queryFailure engine sql))
        (.adapter { own.ready with
          replies := replies
          nextStatement := own.nextStatement + (Adapter.prepares engine values).toNat })

theorem Link.query_submits {engine : Engine} {link : Link} (serves : link.Serves engine)
    (sql : String) (values : Option (List Value)) :
    Submission engine sql values link ((Link.query sql values).run link).events
      ((Link.query sql values).run link).failure? ((Link.query sql values).run link).state := by
  cases link with
  | plain replies =>
      cases replies with
      | nil => exact .answered rfl
      | cons reply rest =>
          cases reply with
          | answer value => exact .answered rfl
          | refusal message engineName => exact .refused rfl
          | breakdown message => exact .refused rfl
  | bare value => cases serves
  | adapter own =>
      obtain ⟨events, replies, seen, conducted, state⟩ := Adapter.answer_conducted sql values own
      have ending : ((Link.query sql values).run (.adapter own)).failure? =
          ((Adapter.answer sql values).run own).failure?.map (Adapter.queryFailure engine sql) := by
        rw [← Act.failure?_mapError, ← serves]
        rfl
      show Submission engine sql values (.adapter own) ((Adapter.answer sql values).run own).events
        _ (.adapter ((Adapter.answer sql values).run own).state)
      rw [ending, seen, state, serves]
      rw [serves] at conducted
      exact .client serves conducted

/-! ## Trails -/

/-- The records of a statement with the values of its parameters, if it has any. -/
def recordOf (sql : String) (values : Option (List Value)) : List Event :=
  .statement sql ::
    match values with
    | some values => [.parameters values]
    | none => []

/-- What happens to a session that is ready, and how it ends: notes, records that are followed by
the one submission of what they record, and at the end at most a submission that failed, or the
record of a statement whose parameters cannot be listed. -/
inductive Trail (engine : Engine) : Link → List Event → Option Failure → Link → Prop
  | still (link : Link) (failure? : Option Failure) : Trail engine link [] failure? link
  | noted (n : Note) {before after : Link} {rest : List Event} {failure? : Option Failure}
      (others : Trail engine before rest failure? after) :
      Trail engine before (.note n :: rest) failure? after
  | submitted {sql : String} {values : Option (List Value)} {before middle after : Link}
      {events rest : List Event} {failure? : Option Failure} (given : values ≠ some [])
      (submission : Submission engine sql values before events none middle)
      (others : Trail engine middle rest failure? after) :
      Trail engine before (recordOf sql values ++ events ++ rest) failure? after
  | failed {sql : String} {values : Option (List Value)} {before after : Link}
      {events : List Event} {failure : Failure} (given : values ≠ some [])
      (submission : Submission engine sql values before events (some failure) after) :
      Trail engine before (recordOf sql values ++ events) (some failure) after
  | unlisted (sql : String) (link : Link) {params : Value} (given : params.truthy = true)
      (unlistable : params.items = .error (.misuse .wrongKind)) :
      Trail engine link [.statement sql] (some (.misuse .wrongKind)) link

namespace Trail

variable {engine : Engine} {before middle after : Link} {events more : List Event}
  {failure? : Option Failure}

theorem append (first : Trail engine before events none middle)
    (second : Trail engine middle more failure? after) :
    Trail engine before (events ++ more) failure? after := by
  generalize ended : (none : Option Failure) = ending at first
  induction first with
  | still link failure? => exact second
  | noted n others ih => exact .noted n (ih second ended)
  | submitted given submission others ih =>
      rw [List.append_assoc]
      exact .submitted given submission (ih second ended)
  | failed given submission => cases ended
  | unlisted sql link given unlistable => cases ended

end Trail

/-! ## What a client library raises -/

/-- The answers that a client library has yet to give. -/
def Link.toCome : Link → List CursorReply
  | .adapter own => own.replies
  | _ => []

/-- Whether an event is an execution. -/
def Event.isExecution : Event → Bool
  | .execute .. => true
  | _ => false

/-- The error with which an answer refuses an execution. -/
def CursorReply.refused? : CursorReply → Option ClientError
  | .refusal error => some error
  | _ => none

/-- The error with which an answer withholds the rows of an execution. -/
def CursorReply.withheld? : CursorReply → Option ClientError
  | .withheld error => some error
  | _ => none

/-- The errors that a client library raises over events, with the answers that it has yet to give
and the error with which it withholds the rows of the latest execution.  Each execution takes the
next answer and raises the error with which this refuses it; fetching raises the error with which
the rows are withheld. -/
def raised : Option ClientError → List CursorReply → List Event → List ClientError
  | _, _, [] => []
  | _, replies, .execute _ _ :: rest =>
      (CursorReply.next replies).1.refused?.toList
        ++ raised (CursorReply.next replies).1.withheld? (CursorReply.next replies).2 rest
  | held, replies, .fetchAll :: rest => held.toList ++ raised held replies rest
  | held, replies, _ :: rest => raised held replies rest

/-- Over events a client library raises only errors of a kind, and has the answers left that the
executions do not take. -/
structure Raises (kind : ClientError → Prop) (before : List CursorReply) (events : List Event)
    (after : List CursorReply) : Prop where
  left : after = before.drop (events.countP Event.isExecution)
  errors : ∀ held, ∃ errors later, (∀ error ∈ errors, kind error) ∧
    ∀ more, raised held before (events ++ more) = errors ++ raised later after more

namespace Raises

variable {kind other : ClientError → Prop} {before middle after : List CursorReply}
  {events more : List Event}

theorem nil (kind : ClientError → Prop) (replies : List CursorReply) :
    Raises kind replies [] replies where
  left := rfl
  errors held := ⟨[], held, List.forall_mem_nil _, fun _ => rfl⟩

theorem imp (raises : Raises kind before events after) (implies : ∀ error, kind error → other error) :
    Raises other before events after where
  left := raises.left
  errors held := by
    obtain ⟨errors, later, all, whole⟩ := raises.errors held
    exact ⟨errors, later, fun error member => implies error (all error member), whole⟩

theorem append (first : Raises kind before events middle) (second : Raises kind middle more after) :
    Raises kind before (events ++ more) after where
  left := by
    rw [second.left, first.left, List.drop_drop, List.countP_append]
  errors held := by
    obtain ⟨errors, later, here, whole⟩ := first.errors held
    obtain ⟨others, last, there, rest⟩ := second.errors later
    refine ⟨errors ++ others, last, List.forall_mem_append.2 ⟨here, there⟩, fun after => ?_⟩
    rw [List.append_assoc, whole, rest, List.append_assoc]

/-- Where nothing is executed or fetched, nothing is raised. -/
theorem of_unused (kind : ClientError → Prop) (replies : List CursorReply)
    (unused : ∀ event ∈ events, event.usesCursor = false) : Raises kind replies events replies := by
  induction events with
  | nil => exact nil kind replies
  | cons event events ih =>
      obtain ⟨here, there⟩ := List.forall_mem_cons.1 unused
      have single : Raises kind replies [event] replies := by
        refine ⟨?_, fun held => ⟨[], held, List.forall_mem_nil _, fun more => ?_⟩⟩
        · cases event with
          | execute sql values => cases here
          | _ => rfl
        · cases event with
          | execute sql values => cases here
          | fetchAll => cases here
          | _ => rfl
      exact single.append (ih there)

/-- All that is raised is of the kind. -/
theorem of_mem (raises : Raises kind before events after) {held : Option ClientError}
    {error : ClientError} (member : error ∈ raised held before events) : kind error := by
  obtain ⟨errors, later, all, whole⟩ := raises.errors held
  have only := whole []
  rw [List.append_nil, raised, List.append_nil] at only
  rw [only] at member
  exact all error member

end Raises

/-- An execution raises what its answer means for it. -/
theorem Execution.raises (engine : Engine) (execution : Execution) (replies : List CursorReply) :
    Raises (fun error => execution.fault? engine (CursorReply.next replies).1 = some (.client error))
      replies (execution.events (CursorReply.next replies).1) (CursorReply.next replies).2 := by
  have next : (CursorReply.next replies).2 = replies.drop 1 := by
    cases replies <;> rfl
  have once (reply : CursorReply) : (execution.events reply).countP Event.isExecution = 1 := by
    unfold events
    split <;> rfl
  refine ⟨by rw [once, next], fun held => ?_⟩
  cases reply : (CursorReply.next replies).1 with
  | refusal error =>
      refine ⟨[error], none, List.forall_mem_singleton.2 rfl, fun more => ?_⟩
      simp only [events, fetches, List.cons_append, raised, reply]
      rfl
  | withheld error =>
      cases reads : execution.readsRows with
      | true =>
          refine ⟨[error], some error, List.forall_mem_singleton.2 (by rw [fault?, reads]; rfl),
            fun more => ?_⟩
          simp only [events, fetches, reads, if_true, List.cons_append, raised, reply]
          rfl
      | false =>
          refine ⟨[], some error, List.forall_mem_nil _, fun more => ?_⟩
          simp only [events, fetches, reads, List.cons_append, raised, reply]
          rfl
  | answer answer =>
      refine ⟨[], none, List.forall_mem_nil _, fun more => ?_⟩
      rw [events]
      by_cases fetches : execution.fetches (.answer answer) = true
      · rw [if_pos fetches]
        simp only [List.cons_append, raised, reply]
        rfl
      · rw [if_neg fetches]
        simp only [List.cons_append, raised, reply]
        rfl

/-- Executions that are conducted raise nothing but the error that ends them. -/
theorem Conducted.raises {engine : Engine} {executions : List Execution}
    {before after : List CursorReply} {events : List Event} {fault : Option AdapterError}
    (conducted : Conducted engine executions before events fault after) :
    Raises (fun error => fault = some (.client error)) before events after := by
  induction conducted with
  | done replies => exact .nil _ replies
  | @accepted execution rest replies after events fault fine others ih =>
      refine ((execution.raises engine replies).imp fun error raises => ?_).append ih
      rw [fine] at raises
      cases raises
  | @failed execution rest replies fault here =>
      exact (execution.raises engine replies).imp fun error raises => here.symm.trans raises

theorem Submission.isStatementTraffic {engine : Engine} {sql : String}
    {values : Option (List Value)} {before after : Link} {events : List Event}
    {failure? : Option Failure} (submission : Submission engine sql values before events failure? after) :
    ∀ event ∈ events, event.isStatementTraffic = true := by
  intro event member
  cases submission with
  | answered taken =>
      rw [List.mem_singleton.1 member]
      rfl
  | refused taken =>
      rw [List.mem_singleton.1 member]
      rfl
  | client kind conducted =>
      rcases List.mem_append.1 member with made | later
      · exact Adapter.cursorEvents_isStatementTraffic _ event made
      · exact conducted.isStatementTraffic later

/-- An error that is raised in a submission ends it, and is reported with the statement. -/
theorem Submission.raises {engine : Engine} {sql : String} {values : Option (List Value)}
    {before after : Link} {events : List Event} {failure? : Option Failure}
    (submission : Submission engine sql values before events failure? after) :
    Raises (fun error => failure? = some (.report (Adapter.executionReport engine sql error)))
      before.toCome events after.toCome := by
  cases submission with
  | answered taken => exact .of_unused _ _ (List.forall_mem_singleton.2 rfl)
  | refused taken => exact .of_unused _ _ (List.forall_mem_singleton.2 rfl)
  | @client own events fault replies kind conducted =>
      have making : ∀ event ∈ own.cursorEvents, event.usesCursor = false := by
        intro event made
        rw [Adapter.eq_cursor_of_mem made]
        rfl
      refine (Raises.of_unused _ _ making).append (conducted.raises.imp fun error ended => ?_)
      rw [ended]
      rfl

/-! ## The latest record -/

/-- The statement of the latest record among events. -/
def latest (events : List Event) : Option String :=
  (events.filterMap fun event =>
    match event with
    | .statement sql => some sql
    | _ => none).getLast?

theorem latest_append_of_some (events : List Event) {more : List Event} {sql : String}
    (found : latest more = some sql) : latest (events ++ more) = some sql := by
  unfold latest at found ⊢
  rw [List.filterMap_append, List.getLast?_append, found]
  rfl

/-- Traffic with a connection holds no record. -/
theorem latest_append_of_traffic {events more : List Event}
    (traffic : ∀ event ∈ more, event.isStatementTraffic = true) :
    latest (events ++ more) = latest events := by
  have nothing : more.filterMap (fun event =>
      match event with
      | .statement sql => some sql
      | _ => none) = [] := by
    rw [List.filterMap_eq_nil_iff]
    intro event member
    have sent := traffic event member
    cases event with
    | statement sql => cases sent
    | _ => rfl
  unfold latest
  rw [List.filterMap_append, nothing, List.append_nil]

theorem latest_recordOf (sql : String) (values : Option (List Value)) :
    latest (recordOf sql values) = some sql := by
  cases values <;> rfl

theorem recordOf_usesCursor (sql : String) (values : Option (List Value)) :
    ∀ event ∈ recordOf sql values, event.usesCursor = false := by
  cases values with
  | none => exact List.forall_mem_singleton.2 rfl
  | some values => exact List.forall_mem_cons.2 ⟨rfl, List.forall_mem_singleton.2 rfl⟩

/-- A trail ends with the report that the statement of the latest record failed with an error. -/
def ReportsLatest (engine : Engine) (events : List Event) (failure? : Option Failure)
    (error : ClientError) : Prop :=
  ∃ sql, latest events = some sql ∧
    failure? = some (.report (Adapter.executionReport engine sql error))

/-- **An error of the client library ends a trail** with the report that the statement of the latest
record failed. -/
theorem Trail.raises {engine : Engine} {before after : Link} {events : List Event}
    {failure? : Option Failure} (trail : Trail engine before events failure? after) :
    Raises (ReportsLatest engine events failure?) before.toCome events after.toCome := by
  induction trail with
  | still link failure? => exact .nil _ link.toCome
  | @noted n before after rest failure? others ih =>
      refine (Raises.of_unused _ before.toCome (List.forall_mem_singleton.2 rfl)).append
        (ih.imp fun error reported => ?_)
      obtain ⟨sql, found, ending⟩ := reported
      exact ⟨sql, latest_append_of_some [.note n] found, ending⟩
  | @submitted sql values before middle after events rest failure? given submission others ih =>
      refine ((Raises.of_unused _ _ (recordOf_usesCursor sql values)).append
        (submission.raises.imp ?_)).append (ih.imp fun error reported => ?_)
      · intro error impossible
        cases impossible
      · obtain ⟨sql, found, ending⟩ := reported
        exact ⟨sql, latest_append_of_some _ found, ending⟩
  | @failed sql values before after events failure given submission =>
      refine (Raises.of_unused _ _ (recordOf_usesCursor sql values)).append
        (submission.raises.imp fun error reported => ⟨sql, ?_, reported⟩)
      rw [latest_append_of_traffic submission.isStatementTraffic, latest_recordOf]
  | unlisted sql link given unlistable =>
      exact .of_unused _ _ (List.forall_mem_singleton.2 rfl)

/-! ## Sessions leave trails -/

namespace Session

variable {α : Type} {session : Session}

/-- What happens to a ready session that records everything is a trail, and leaves it such. -/
def Audited : Act.Rule Failure Session Event := fun before events failure? after =>
  before.Ready → before.logging.threshold ≤ Logging.parametersWeight →
    Trail before.engine before.link events failure? after.link ∧ after.Ready ∧
      after = { before with link := after.link }

theorem audited_sequential : Audited.Sequential where
  still session failure? ready _ := ⟨.still session.link failure?, ready, rfl⟩
  append := by
    intro before middle after first rest failure? head tail ready traced
    obtain ⟨trail, still, same⟩ := head ready traced
    obtain ⟨others, last, kept⟩ := tail still (by rw [same]; exact traced)
    have kind : middle.engine = before.engine := by rw [same]
    rw [kind] at others
    refine ⟨trail.append others, last, ?_⟩
    rw [same] at kept
    exact kept

theorem note_audited (n : Note) : (note n).Follows Audited := by
  intro session ready _
  rw [run_note]
  refine ⟨?_, ready, rfl⟩
  unfold Logging.note
  split
  · exact .noted n (.still _ _)
  · exact .still _ _

theorem record_traced {logging : Logging} (traced : logging.threshold ≤ Logging.parametersWeight)
    (sql : String) (values : Option (List Value)) : logging.record sql values = recordOf sql values := by
  have lower : logging.threshold ≤ Logging.statementWeight :=
    Nat.le_trans traced (by decide)
  cases values with
  | none => simp [Logging.record, Logging.statement, recordOf, lower]
  | some values => simp [Logging.record, Logging.statement, Logging.parameters, recordOf, lower, traced]

theorem parameterValues_ne_nil {params : Value} {values : Option (List Value)}
    (listed : parameterValues params = .ok values) : values ≠ some [] := by
  unfold parameterValues at listed
  split at listed
  · rename_i given
    cases items : params.items with
    | ok found =>
        rw [items] at listed
        cases listed
        intro none
        exact Value.items_ne_nil given items (Option.some.inj none)
    | error failure =>
        rw [items] at listed
        cases listed
  · cases listed
    intro none
    cases none

theorem parameterValues_eq_error {params : Value} {failure : Failure}
    (unlisted : parameterValues params = .error failure) :
    failure = .misuse .wrongKind ∧ params.truthy = true ∧
      params.items = .error (.misuse .wrongKind) := by
  unfold parameterValues at unlisted
  split at unlisted
  · rename_i given
    cases items : params.items with
    | ok found =>
        rw [items] at unlisted
        cases unlisted
    | error found =>
        rw [items] at unlisted
        cases unlisted
        obtain rfl := Value.items_eq_error items
        exact ⟨rfl, given, rfl⟩
  · cases unlisted

/-- **A statement leaves a trail.** -/
theorem submit_audited (template params : Value) : (submit template params).Follows Audited := by
  intro session ready traced
  refine ⟨?_, submit_lasting template params session ready, submit_framed template params session⟩
  rcases submit_cases template params session with
    ⟨failure, -, run⟩ | ⟨sql, failure, -, unlisted, run⟩ | ⟨sql, values, -, listed, run⟩
  · rw [run]
    exact .still _ _
  · obtain ⟨rfl, given, unlistable⟩ := parameterValues_eq_error unlisted
    rw [run, record_traced traced]
    exact .unlisted sql session.link given unlistable
  · have given := parameterValues_ne_nil listed
    have submission := Link.query_submits ready.serves sql values
    rw [run, record_traced traced, ready.handle]
    unfold Outcome.failure? at submission ⊢
    revert submission
    cases ((Link.query sql values).run session.link).result with
    | ok value =>
        intro submission
        rw [← List.append_nil (recordOf sql values ++ _)]
        exact .submitted given submission (.still _ _)
    | error failure => exact .failed given

/-- Every script leaves a trail. -/
theorem perform_audited (script : Script α) : (perform script).Follows Audited :=
  perform_follows audited_sequential note_audited submit_audited script

/-- **The statement log is an audit trail.**  Over every run of a live session up to a close, over
the caller's own connection or one of the engine's own client library, with statements and
parameters recorded: what happens in an operation is a trail, so that the record of a statement is
followed at once by its one submission, with the same text and the same values, unless the
parameters cannot be listed, when nothing is submitted; nothing is submitted without its record; each
execution takes the next answer of the client library; and whenever the client library raises an
error of its own, the operation fails with the report that the statement of the latest record failed
with it. -/
theorem audit_trail {surroundings : Surroundings} {logging : Logging} {source : Source}
    {config : Config} {session : Session} (read : Connect.readSource source = .ok config)
    (live : config.dryRun.truthy = false) (usable : Connect.Usable surroundings config)
    (traced : logging.threshold ≤ Logging.parametersWeight)
    (opened : ((Connect.connect surroundings logging source).run ()).result = .ok session)
    (steps : List (Timestamp × Step)) (notClosed : ∀ timed ∈ steps, timed.2 ≠ .close)
    (now : Timestamp) (operation : Operation) :
    let before := (runAll steps session).2
    let outcome := (step now (.operation operation)).run before
    Trail config.engine before.link outcome.events outcome.failure? outcome.state.link ∧
    outcome.state.link.toCome
        = before.link.toCome.drop (outcome.events.countP Event.isExecution) ∧
      ∀ error ∈ raised none before.link.toCome outcome.events,
        ∃ sql, latest outcome.events = some sql ∧
          outcome.failure? = some (.report (Adapter.executionReport config.engine sql error)) := by
  obtain ⟨found, same, rfl⟩ := Connect.connect_eq_ok opened
  obtain rfl : config = found := by rw [read] at same; cases same; rfl
  have ready := runAll_ready (Connect.initial_ready logging live usable) notClosed
  have framed := runAll_closed steps (Connect.initial surroundings logging config)
  intro before outcome
  have trail : Trail config.engine before.link outcome.events outcome.failure? outcome.state.link := by
    have kind : before.engine = config.engine := by
      show (runAll steps (Connect.initial surroundings logging config)).2.engine = _
      rw [framed]
      rfl
    have recording : before.logging.threshold ≤ Logging.parametersWeight := by
      show (runAll steps (Connect.initial surroundings logging config)).2.logging.threshold ≤ _
      rw [framed]
      exact traced
    have left := (perform_audited (operation.script before.engine now) before ready recording).1
    rw [← run_step_operation, kind] at left
    exact left
  exact ⟨trail, trail.raises.left, fun error => trail.raises.of_mem⟩

/-- A client library that withholds the rows of a statement that it has prepared and executed. -/
def withholdingSurroundings : Surroundings :=
  { Connect.quietSurroundings with
    cursorReplies := [.answer Adapter.silence, .answer Adapter.silence,
      .withheld ⟨"connection lost", .text "08006"⟩] }

/-- Where the rows are fetched, the error is reported with the statement that was recorded. -/
theorem audit_trail_postgres :
    let config := Connect.plainConfig .postgres .null (.bool false)
    let session := Connect.initial withholdingSurroundings ⟨5, true⟩ config
    let now : Timestamp := ⟨2024, 1, 2, 3, 4, 5, 6⟩
    let steps := [(now, Step.operation (.dropTable (.text "t") (.bool true)))]
    let outcome := (step now (.operation (.run (.text "select * from [t] where id = ?")
      (.list [.int 1])))).run (runAll steps session).2
    Connect.readSource (.config config) = .ok config ∧ config.dryRun.truthy = false ∧
      Connect.Usable withholdingSurroundings config ∧ 5 ≤ Logging.parametersWeight ∧
      ((Connect.connect withholdingSurroundings ⟨5, true⟩ (.config config)).run ()).result
        = .ok session ∧
      (∀ timed ∈ steps, timed.2 ≠ .close) ∧
      Trail .postgres (runAll steps session).2.link outcome.events outcome.failure?
        outcome.state.link ∧
      ∃ sql, latest outcome.events = some sql ∧ outcome.failure? = some (.report
        (Adapter.executionReport .postgres sql ⟨"connection lost", .text "08006"⟩)) := by
  intro config session now steps outcome
  have usable : Connect.Usable withholdingSurroundings config := .inl rfl
  have opened : ((Connect.connect withholdingSurroundings ⟨5, true⟩ (.config config)).run ()).result
      = .ok session := rfl
  have notClosed : ∀ timed ∈ steps, timed.2 ≠ .close := by
    intro timed member
    rw [List.mem_singleton.1 member]
    intro impossible
    cases impossible
  obtain ⟨trail, -, reported⟩ := audit_trail rfl rfl usable (Nat.le_refl 5) opened steps
    notClosed now (.run (.text "select * from [t] where id = ?") (.list [.int 1]))
  have all : raised none (runAll steps session).2.link.toCome outcome.events
      = [⟨"connection lost", .text "08006"⟩] := rfl
  refine ⟨rfl, rfl, usable, Nat.le_refl 5, opened, notClosed, trail, reported _ ?_⟩
  rw [all]
  exact List.mem_singleton_self _

/-- Parameters that count as given but cannot be listed are found out only after the record. -/
theorem unlistable_parameters_unsent :
    Connect.plainSession.Ready ∧
      Connect.plainSession.logging.threshold ≤ Logging.parametersWeight ∧
      ((step ⟨2024, 1, 2, 3, 4, 5, 6⟩ (.operation (.run (.text "select 1") (.int 5)))).run
        Connect.plainSession).events = [.statement "select 1"] ∧
      ((step ⟨2024, 1, 2, 3, 4, 5, 6⟩ (.operation (.run (.text "select 1") (.int 5)))).run
        Connect.plainSession).failure? = some (.misuse .wrongKind) :=
  ⟨Connect.initial_ready _ rfl (.inr (.inl rfl)), Nat.le_refl 5, rfl, rfl⟩

end Session

end SchemaChange
