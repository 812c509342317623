/-
# SchemaChange.Proofs.Session.Descriptions — bad descriptions, and how they are reported

A change that is given a description of columns ends as the reading of the description does, where
the connection accepts what it is handed: it submits its statements and returns, it reports the
argument, or it fails with an operation that the description does not have.  The last failure is
not reported, although it is the description that is at fault.

The statements of a change write lengths and defaults, so all this is stated of descriptions that
hold no integer too long to be written.

* `Operation.described_written` — what the statements write of the columns described can be written.
* `step_understood`, `step_unread` — what a change does whose description is understood, and one
  whose description is not.
* `bad_descriptions_are_reported_iff` — which descriptions are reported.
* `number_for_a_column_is_not_reported` — a description that is not.
-/
import SchemaChange.Proofs.Column.Written
import SchemaChange.Proofs.Session.Atomicity

set_option autoImplicit false

namespace SchemaChange

namespace Operation

/-- A change describes a column, or a table with this column among others. -/
inductive Describes : Operation → ColumnSpec → Prop
  | added {table column description : Value} {spec : ColumnSpec}
      (read : (ColumnSpec.ofValue description).result = .ok spec) :
      Describes (.addColumn table column description) spec
  | changed {table column description : Value} {spec : ColumnSpec}
      (read : (ColumnSpec.ofValue description).result = .ok spec) :
      Describes (.changeColumn table column description) spec
  | created {table options : Value} {found : Table} {column : Value × ColumnSpec}
      (read : (Table.ofValue options).result = .ok found) (member : column ∈ found.columns) :
      Describes (.createTable table options) column.2

/-- A writable description describes columns that can be written. -/
theorem described_written {engine : Engine} {operation : Operation} {description : Value}
    {reading : Reading} (reads : operation.Reads engine description reading)
    (writable : description.isWritable = true) {spec : ColumnSpec}
    (describes : operation.Describes spec) : spec.Written := by
  cases reads with
  | addColumn =>
      cases describes with
      | added read => exact ColumnSpec.ofValue_written writable read
  | changeColumn =>
      cases describes with
      | changed read => exact ColumnSpec.ofValue_written writable read
  | createTable =>
      cases describes with
      | created read member => exact Table.ofValue_written writable read _ member

end Operation

namespace Session

variable {session : Session} {operation : Operation} {description : Value}

/-- A change that can be rendered returns if its statements are accepted, and the connection has
received all of them. -/
theorem step_understood (ready : session.Ready) (now : Timestamp) {rendering : Noted (List String)}
    {plan : List String} (renders : operation.statements? session.engine = some rendering)
    (rendered : rendering.result = .ok plan)
    (accepts : ∀ sent ∈ stepDispatched now (.operation operation) session, sent.isAccepted = true) :
    (∃ value, ((step now (.operation operation)).run session).result = .ok value) ∧
      received ((step now (.operation operation)).run session).events =
        plan.map session.engine.withoutBrackets := by
  obtain ⟨count, -, complete, arrived⟩ := received_statements ready now renders rendered
  cases result : ((step now (.operation operation)).run session).result with
  | error failure =>
      obtain ⟨sent, member, refused⟩ := step_rendered now renders rendered result
      have accepted := accepts sent member
      rw [Dispatched.isAccepted, refused] at accepted
      cases accepted
  | ok value =>
      have whole : plan.length ≤ count := complete (by rw [Outcome.failure?, result])
      exact ⟨⟨value, rfl⟩, by rw [arrived, List.take_of_length_le whole]⟩

/-- A change that cannot be rendered fails as its rendering does, and does nothing. -/
theorem step_unread (now : Timestamp) {rendering : Noted (List String)} {failure : Failure}
    (renders : operation.statements? session.engine = some rendering)
    (unrendered : rendering.result = .error failure) :
    ((step now (.operation operation)).run session).result = .error failure ∧
      received ((step now (.operation operation)).run session).events = [] ∧
      ((step now (.operation operation)).run session).state = session := by
  obtain ⟨run, -⟩ := step_unrendered now renders unrendered
  rw [run]
  exact ⟨rfl, received_notes rendering.notes session.logging, rfl⟩

/-- **Which bad descriptions are reported.**  Over every ready session and for every change that is
given a description, with texts as names: where the connection accepts what it is handed, the change
returns or reports the argument exactly if the reading of the description does not end with a missed
operation.  If the description is understood, the connection has received the whole plan of the
change; otherwise it has received nothing, and the session is what it was.  No integer of the
description is too long to be written, so the columns described can be written. -/
theorem bad_descriptions_are_reported_iff (ready : session.Ready) (now : Timestamp)
    {reading : Reading} (reads : operation.Reads session.engine description reading)
    (writable : description.isWritable = true)
    (accepts : ∀ sent ∈ stepDispatched now (.operation operation) session, sent.isAccepted = true) :
    let outcome := (step now (.operation operation)).run session
    (((∃ value, outcome.result = .ok value) ∨
        ∃ failure, outcome.result = .error failure ∧ failure.IsValidation) ↔ reading ≠ .missed) ∧
      (reading = .understood → (∃ value, outcome.result = .ok value) ∧
        ∃ rendering plan, operation.statements? session.engine = some rendering ∧
          rendering.result = .ok plan ∧ plan ≠ [] ∧
          received outcome.events = plan.map session.engine.withoutBrackets) ∧
      (reading = .refused → ∃ failure, outcome.result = .error failure ∧ failure.IsValidation) ∧
      (reading = .missed → outcome.result = .error (.misuse .missingOperation)) ∧
      (reading ≠ .understood → received outcome.events = [] ∧ outcome.state = session) ∧
      ∀ spec, operation.Describes spec → spec.Written := by
  intro outcome
  have written : ∀ spec, operation.Describes spec → spec.Written :=
    fun _ describes => Operation.described_written reads writable describes
  obtain ⟨rendering, renders, ends⟩ := Operation.rendering_ends reads
  generalize rendered : rendering.result = result at ends
  cases ends with
  | understood plan =>
      obtain ⟨returns, arrived⟩ := step_understood ready now renders rendered accepts
      refine ⟨iff_of_true (.inl returns) nofun, fun _ => ⟨returns, rendering, plan, renders, rendered,
        Operation.statements_ne_nil renders rendered, arrived⟩, nofun, nofun, ?_, written⟩
      intro impossible
      exact absurd rfl impossible
  | @refused failure validation =>
      obtain ⟨failed, nothing⟩ := step_unread now renders rendered
      have reported : ∃ failure, outcome.result = .error failure ∧ failure.IsValidation :=
        ⟨failure, failed, validation⟩
      exact ⟨iff_of_true (.inr reported) nofun, nofun, fun _ => reported, nofun, fun _ => nothing,
        written⟩
  | missed =>
      obtain ⟨failed, nothing⟩ := step_unread now renders rendered
      refine ⟨iff_of_false ?_ (fun other => other rfl), nofun, nofun, fun _ => failed,
        fun _ => nothing, written⟩
      rintro (⟨value, returned⟩ | ⟨failure, same, message, fieldName, fieldValue, rfl⟩)
      · rw [failed] at returned
        cases returned
      · rw [failed] at same
        cases same

/-- A column is described by its type, and a table by a text that is no description. -/
theorem bad_descriptions_are_reported_iff_column :
    let now : Timestamp := ⟨2024, 1, 2, 3, 4, 5, 6⟩
    let added := Operation.addColumn (.text "t") (.text "c") (.text "int")
    let created := Operation.createTable (.text "t") (.text "no columns")
    Connect.plainSession.Ready ∧
      received ((step now (.operation added)).run Connect.plainSession).events =
        ["ALTER TABLE \"t\" ADD COLUMN \"c\" INTEGER  "] ∧
      ∃ failure, ((step now (.operation created)).run Connect.plainSession).result =
        .error failure ∧ failure.IsValidation := by
  intro now added created
  have ready : Connect.plainSession.Ready := Connect.initial_ready _ rfl (.inr (.inl rfl))
  have accepts : ∀ sent ∈ stepDispatched now (.operation added) Connect.plainSession,
      sent.isAccepted = true := by
    intro sent member
    obtain rfl := List.mem_singleton.1 member
    rfl
  have nothing : ∀ sent ∈ stepDispatched now (.operation created) Connect.plainSession,
      sent.isAccepted = true := by
    intro sent member
    cases member
  obtain ⟨-, understood, -⟩ := bad_descriptions_are_reported_iff ready now
    (.addColumn "t" "c" (.text "int")) rfl accepts
  obtain ⟨-, rendering, plan, renders, rendered, -, arrived⟩ := understood rfl
  cases renders
  obtain rfl := Except.ok.inj rendered
  obtain ⟨-, -, refused, -⟩ := bad_descriptions_are_reported_iff ready now
    (.createTable "t" (.text "no columns") (Value.Texts.words [])) rfl nothing
  exact ⟨ready, arrived, refused rfl⟩

/-- A number for a column and a list for a table are not reported. -/
theorem number_for_a_column_is_not_reported :
    let now : Timestamp := ⟨2024, 1, 2, 3, 4, 5, 6⟩
    let added := (step now (.operation (.addColumn (.text "t") (.text "c") (.int 5)))).run
      Connect.plainSession
    let created := (step now (.operation (.createTable (.text "t") (.list [])))).run
      Connect.plainSession
    Connect.plainSession.Ready ∧
      (∀ failure, added.result = .error failure → ¬ failure.IsValidation) ∧
      added.result = .error (.misuse .missingOperation) ∧
      created.result = .error (.misuse .missingOperation) := by
  refine ⟨Connect.initial_ready _ rfl (.inr (.inl rfl)), ?_, rfl, rfl⟩
  rintro failure ⟨⟩ ⟨message, fieldName, fieldValue, same⟩
  cases same

end Session

end SchemaChange
