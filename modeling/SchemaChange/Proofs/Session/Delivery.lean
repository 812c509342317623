/-
# SchemaChange.Proofs.Session.Delivery — what the database receives of a schema change

The texts that a schema change renders are submitted like any template, so their
brackets are replaced on the way (`Engine.withoutBrackets`), also those that come out
of names, types, defaults and values.

* `received_statements` — of a plan the connection receives the statements in order,
  with their brackets replaced, the first one in any case and all of them unless one
  fails.
* `statements_arrive_iff_unbracketed` — they arrive as they were rendered exactly if
  they have no brackets, and inserted texts are read back exactly if they have none.
* `inserted_brackets_are_lost` — an inserted text that is not read back.
-/
import SchemaChange.Proofs.Operation.Statements
import SchemaChange.Proofs.Session.Ready
import SchemaChange.Proofs.Statement.Literals

set_option autoImplicit false

namespace SchemaChange

open SchemaChange.Statement (Unbracketed readTexts? stripBrackets)

/-- The text of the statement that an event hands to a connection. -/
def Event.sent? : Event → Option String
  | .query sql _ | .execute sql _ => some sql
  | _ => none

/-- The texts that a connection receives among events, in order. -/
def received (events : List Event) : List String :=
  events.filterMap Event.sent?

@[simp] theorem received_append (first rest : List Event) :
    received (first ++ rest) = received first ++ received rest :=
  List.filterMap_append

theorem received_eq_nil {events : List Event} (silent : ∀ event ∈ events, event.isTraffic = false) :
    received events = [] := by
  rw [received, List.filterMap_eq_nil_iff]
  intro event member
  have untold := silent event member
  cases event with
  | query sql params => cases untold
  | execute sql params => cases untold
  | _ => rfl

namespace Engine

/-- What an engine has in the place of brackets. -/
def bracketMark : Engine → String
  | .mysql => ""
  | _ => "\""

/-- A text with its brackets replaced in the way of an engine. -/
def withoutBrackets (engine : Engine) (text : String) : String :=
  String.ofList (stripBrackets engine.bracketMark.toList text.toList)

theorem bracketMark_unbracketed (engine : Engine) : Unbracketed engine.bracketMark.toList := by
  cases engine <;> decide

theorem bracketMark_quoteless (engine : Engine) : '\'' ∉ engine.bracketMark.toList := by
  cases engine <;> decide

/-- A template without parameters is sent with its brackets replaced. -/
theorem prepare_text (engine : Engine) (text : String) :
    Statement.prepare engine.dialect (.text text) .null = .ok (engine.withoutBrackets text) := by
  cases engine <;> rfl

theorem withoutBrackets_append (engine : Engine) (first rest : String) :
    engine.withoutBrackets (first ++ rest)
      = engine.withoutBrackets first ++ engine.withoutBrackets rest := by
  simp only [withoutBrackets, String.toList_append, Statement.stripBrackets_append,
    String.ofList_append]

/-- An engine leaves a text alone exactly if it has no brackets. -/
theorem withoutBrackets_eq_self_iff (engine : Engine) (text : String) :
    engine.withoutBrackets text = text ↔ Unbracketed text.toList := by
  rw [← Statement.stripBrackets_eq_self_iff engine.bracketMark_unbracketed]
  constructor
  · intro same
    rw [← String.toList_ofList (l := stripBrackets _ _)]
    exact congrArg String.toList same
  · intro same
    rw [withoutBrackets, same, String.ofList_toList]

theorem map_withoutBrackets_eq_self_iff (engine : Engine) (texts : List String) :
    texts.map engine.withoutBrackets = texts ↔ ∀ text ∈ texts, Unbracketed text.toList := by
  induction texts with
  | nil => simp
  | cons text texts ih =>
      rw [List.map_cons, List.cons.injEq, ih, withoutBrackets_eq_self_iff, List.forall_mem_cons]

end Engine

/-! ## One statement -/

theorem Execution.received_events (execution : Execution) (reply : CursorReply) :
    received (execution.events reply) = [execution.sql] := by
  unfold Execution.events
  split <;> rfl

/-- Of executions the connection receives the first ones, and all of them unless one fails. -/
theorem Conducted.receives {engine : Engine} {executions : List Execution}
    {before after : List CursorReply} {events : List Event} {fault : Option AdapterError}
    (conducted : Conducted engine executions before events fault after) :
    ∃ count, 0 < count ∧ (fault = none → executions.length ≤ count) ∧
      received events = (executions.map Execution.sql).take count := by
  induction conducted with
  | done replies => exact ⟨1, Nat.one_pos, fun _ => Nat.zero_le _, rfl⟩
  | accepted fine others ih =>
      obtain ⟨count, -, complete, same⟩ := ih
      refine ⟨count + 1, Nat.succ_pos _, fun none => Nat.succ_le_succ (complete none), ?_⟩
      rw [received_append, Execution.received_events, same]
      rfl
  | failed here =>
      refine ⟨1, Nat.one_pos, ?_, ?_⟩
      · intro none
        cases none
      · rw [Execution.received_events]
        rfl

theorem Link.received_query {engine : Engine} {link : Link} (serves : link.Serves engine)
    (sql : String) : received ((Link.query sql none).run link).events = [sql] := by
  cases link with
  | plain replies => rfl
  | bare value => cases serves
  | adapter own =>
      obtain ⟨events, replies, seen, conducted, -⟩ := Adapter.answer_conducted sql none own
      obtain ⟨count, positive, -, same⟩ := conducted.receives
      show received ((Adapter.answer sql none).run own).events = _
      have made : received own.cursorEvents = [] := by
        unfold Adapter.cursorEvents
        split <;> rfl
      rw [seen, received_append, made, same]
      show [sql].take count = [sql]
      exact List.take_of_length_le positive

namespace Session

variable {session : Session}

/-- A statement without parameters reaches the connection of a ready session with its brackets
replaced. -/
theorem received_submit (ready : session.Ready) (text : String) :
    received ((submit (.text text) .null).run session).events
      = [session.engine.withoutBrackets text] := by
  have recorded : received (session.logging.record (session.engine.withoutBrackets text) none) = [] :=
    received_eq_nil (session.logging.record_isTraffic _ none)
  rw [run_submit_announced (session.engine.prepare_text text) rfl, ready.handle, received_append,
    recorded]
  exact Link.received_query ready.serves _

/-! ## A plan of statements -/

/-- Notes come before what they are notes on, and leave a session as it is. -/
theorem run_perform_notes {α : Type} (notes : List Note) (next : Script α) (session : Session) :
    (perform (Script.notes notes next)).run session =
      ⟨((perform next).run session).result,
        notes.flatMap session.logging.note ++ ((perform next).run session).events,
        ((perform next).run session).state⟩ := by
  induction notes with
  | nil => rfl
  | cons n notes ih =>
      rw [Script.notes, perform, Act.run_bind_ok (by rfl), run_note]
      simp only [ih, List.flatMap_cons, List.append_assoc]

theorem received_notes (notes : List Note) (logging : Logging) :
    received (notes.flatMap logging.note) = [] := by
  refine received_eq_nil fun event member => ?_
  obtain ⟨n, -, noted⟩ := List.mem_flatMap.1 member
  exact logging.note_isTraffic n event noted

/-- Of a plan the connection receives the statements in order, the first one in any case and all of
them unless one fails. -/
theorem received_plan (ready : session.Ready) (plan : List String) :
    ∃ count, 0 < count ∧
      (((perform (Script.runAll plan)).run session).failure? = none → plan.length ≤ count) ∧
      received ((perform (Script.runAll plan)).run session).events
        = (plan.take count).map session.engine.withoutBrackets := by
  induction plan generalizing session with
  | nil => exact ⟨1, Nat.one_pos, fun _ => Nat.zero_le _, rfl⟩
  | cons text rest ih =>
      have first := received_submit ready text
      have still : ((submit (.text text) .null).run session).state.Ready :=
        submit_lasting _ _ session ready
      have same : ((submit (.text text) .null).run session).state.engine = session.engine := by
        rw [submit_framed]
      cases rest with
      | nil =>
          refine ⟨1, Nat.one_pos, fun _ => Nat.le_refl 1, ?_⟩
          show received ((submit (.text text) .null >>= fun value => perform (pure value)).run
            session).events = _
          cases result : ((submit (.text text) .null).run session).result with
          | ok value =>
              rw [Act.run_bind_ok result, received_append, first]
              rfl
          | error failure =>
              rw [Act.run_bind_error result]
              exact first
      | cons next rest =>
          rw [Script.runAll_cons, perform]
          cases result : ((submit (.text text) .null).run session).result with
          | ok value =>
              obtain ⟨count, -, complete, others⟩ := ih still
              rw [Act.run_bind_ok result]
              refine ⟨count + 1, Nat.succ_pos _, fun none => Nat.succ_le_succ (complete none), ?_⟩
              rw [received_append, first, others, same]
              rfl
          | error failure =>
              rw [Act.run_bind_error result]
              refine ⟨1, Nat.one_pos, ?_, first⟩
              intro none
              cases none

/-- **Of the statements that a change renders, the connection receives the first ones in order with
their brackets replaced**, and all of them if none fails. -/
theorem received_statements (ready : session.Ready) (now : Timestamp) {operation : Operation}
    {rendering : Noted (List String)} {plan : List String}
    (renders : operation.statements? session.engine = some rendering)
    (rendered : rendering.result = .ok plan) :
    ∃ count, 0 < count ∧
      (((step now (.operation operation)).run session).failure? = none → plan.length ≤ count) ∧
      received ((step now (.operation operation)).run session).events
        = (plan.take count).map session.engine.withoutBrackets := by
  obtain ⟨count, positive, complete, same⟩ := received_plan ready plan
  rw [run_step_operation, Operation.script_eq_statements renders,
    Script.ofStatements_of_ok rendered, run_perform_notes]
  refine ⟨count, positive, complete, ?_⟩
  rw [received_append, received_notes, same, List.nil_append]

end Session

/-! ## Inserted texts -/

/-- An insertion ends with the literals of its values. -/
theorem Engine.insert_eq_ok {engine : Engine} {table columns : Value} {values : List Value}
    {statement : String} (rendered : engine.insert table columns (.list values) = .ok statement) :
    ∃ head, statement = head ++ Engine.literals values ++ ");" := by
  simp only [Engine.insert, bind, Except.bind] at rendered
  split at rendered
  · cases rendered
  · split at rendered
    · cases rendered
    · split at rendered
      · cases rendered
      · split at rendered
        · cases rendered
        · split at rendered
          · cases rendered
          · split at rendered
            · cases rendered
            · rename_i items
              cases items
              cases rendered
              exact ⟨_, rfl⟩

/-- The literals of texts, with their brackets replaced, are read back as the texts with their
brackets replaced. -/
theorem Engine.readTexts?_withoutBrackets (engine : Engine) (texts : List String) :
    readTexts? (engine.withoutBrackets (Engine.literals (texts.map Value.text))).toList =
      some ((texts.map engine.withoutBrackets).map String.toList) := by
  rw [Engine.withoutBrackets, String.toList_ofList, Statement.toList_literals,
    Statement.stripBrackets_joinWith_quoted engine.bracketMark_unbracketed
      engine.bracketMark_quoteless, Statement.readTexts?_quoted]
  simp [Engine.withoutBrackets, Function.comp_def]

namespace Session

variable {session : Session}

/-- What is inserted is the rendering up to its values, the values, and the end. -/
theorem received_insert (ready : session.Ready) (now : Timestamp) {table columns : Value}
    {texts : List String} {statement : String}
    (rendered : session.engine.insert table columns (.list (texts.map .text)) = .ok statement) :
    ∃ head body, statement = head ++ Engine.literals (texts.map .text) ++ ");" ∧
      received ((step now (.operation (.insert table columns (.list (texts.map .text))))).run
        session).events = [session.engine.withoutBrackets head ++ body ++ ");"] ∧
      readTexts? body.toList = some ((texts.map session.engine.withoutBrackets).map String.toList) := by
  obtain ⟨head, rfl⟩ := Engine.insert_eq_ok rendered
  have renders : (Operation.insert table columns (.list (texts.map .text))).statements?
      session.engine = some (Operation.single (.ofAttempt
        (session.engine.insert table columns (.list (texts.map .text))))) := rfl
  have whole : (Operation.single (.ofAttempt
      (session.engine.insert table columns (.list (texts.map .text))))).result
        = .ok [head ++ Engine.literals (texts.map .text) ++ ");"] := by
    rw [Operation.single, Noted.result_bind, Noted.result_ofAttempt, rendered]
    rfl
  obtain ⟨count, positive, -, same⟩ := received_statements ready now renders whole
  refine ⟨head, _, rfl, ?_, Engine.readTexts?_withoutBrackets session.engine texts⟩
  rw [same, List.take_of_length_le positive, List.map_singleton, Engine.withoutBrackets_append,
    Engine.withoutBrackets_append]
  have ending : session.engine.withoutBrackets ");" = ");" :=
    (session.engine.withoutBrackets_eq_self_iff ");").2 (by decide)
  rw [ending]

/-- A column that is renamed by its type is renamed with the brackets of the statement replaced. -/
theorem received_rename (ready : session.Ready) (now : Timestamp) (mysql : session.engine = .mysql)
    {table column newColumn : Value} {row : Statement.Row} {rows : List Statement.Row}
    (listed : ((fetch (.text Engine.columnTypeQuery) (.list [table, column])).run session).result
      = .ok (row :: rows)) :
    ∃ later, ((step now (.operation (.renameColumn table column newColumn))).run session).events =
        ((fetch (.text Engine.columnTypeQuery) (.list [table, column])).run session).events ++ later ∧
      received later = [session.engine.withoutBrackets
        (session.engine.renameColumnOfType table column newColumn
          (row.getD "COLUMN_TYPE" (row.getD "column_type" .null)))] := by
  have ready' := fetch_ready ready (.text Engine.columnTypeQuery) (.list [table, column])
  have engine : ((fetch (.text Engine.columnTypeQuery) (.list [table, column])).run
      session).state.engine = session.engine := by
    rw [fetch_framed]
  obtain ⟨count, positive, -, same⟩ := received_plan ready'
    [session.engine.renameColumnOfType table column newColumn
      (row.getD "COLUMN_TYPE" (row.getD "column_type" .null))]
  rw [engine, List.take_of_length_le positive, List.map_singleton] at same
  refine ⟨_, ?_, same⟩
  rw [run_step_operation, mysql]
  show ((fetch (.text Engine.columnTypeQuery) (.list [table, column]) >>= fun rows =>
    perform ((pure rows : Script (List Statement.Row)).bind _)).run session).events = _
  rw [Act.run_bind_ok listed]
  rfl

/-- **Statements arrive as they were rendered exactly if they have no brackets.**  Over every ready
session: of the statements that a change renders, the connection receives the first ones in order,
and all of them if none fails, each with its brackets replaced, so that what arrives is what was
rendered exactly if that has no brackets; the same holds of the statement by which MySQL renames a
column; and the texts in an insertion that arrives are read back as the texts that were inserted
exactly if these have no brackets. -/
theorem statements_arrive_iff_unbracketed (ready : session.Ready) (now : Timestamp) :
    (∀ (operation : Operation) (rendering : Noted (List String)) (plan : List String),
      operation.statements? session.engine = some rendering → rendering.result = .ok plan →
      let outcome := (step now (.operation operation)).run session
      plan ≠ [] ∧ ∃ count, 0 < count ∧ (outcome.failure? = none → plan.length ≤ count) ∧
        received outcome.events = (plan.take count).map session.engine.withoutBrackets ∧
        (received outcome.events = plan.take count ↔
          ∀ statement ∈ plan.take count, Unbracketed statement.toList)) ∧
    (∀ (table column newColumn : Value) (row : Statement.Row) (rows : List Statement.Row),
      session.engine = .mysql →
      let catalog := (fetch (.text Engine.columnTypeQuery) (.list [table, column])).run session
      let statement := session.engine.renameColumnOfType table column newColumn
        (row.getD "COLUMN_TYPE" (row.getD "column_type" .null))
      catalog.result = .ok (row :: rows) →
      ∃ later, ((step now (.operation (.renameColumn table column newColumn))).run session).events
          = catalog.events ++ later ∧
        received later = [session.engine.withoutBrackets statement] ∧
        (received later = [statement] ↔ Unbracketed statement.toList)) ∧
    ∀ (table columns : Value) (texts : List String) (statement : String),
      session.engine.insert table columns (.list (texts.map .text)) = .ok statement →
      ∃ head body, statement = head ++ Engine.literals (texts.map .text) ++ ");" ∧
        received ((step now (.operation (.insert table columns (.list (texts.map .text))))).run
          session).events = [session.engine.withoutBrackets head ++ body ++ ");"] ∧
        (readTexts? body.toList = some (texts.map String.toList) ↔
          ∀ text ∈ texts, Unbracketed text.toList) := by
  refine ⟨?_, ?_, ?_⟩
  · intro operation rendering plan renders rendered
    obtain ⟨count, positive, complete, same⟩ := received_statements ready now renders rendered
    refine ⟨Operation.statements_ne_nil renders rendered, count, positive, complete, same, ?_⟩
    rw [same]
    exact session.engine.map_withoutBrackets_eq_self_iff _
  · intro table column newColumn row rows mysql catalog statement listed
    obtain ⟨later, split, same⟩ := received_rename ready now mysql listed
    refine ⟨later, split, same, ?_⟩
    rw [same, List.cons.injEq, and_iff_left rfl]
    exact session.engine.withoutBrackets_eq_self_iff _
  · intro table columns texts statement rendered
    obtain ⟨head, body, whole, same, reading⟩ := received_insert ready now rendered
    refine ⟨head, body, whole, same, ?_⟩
    rw [reading, Option.some.injEq, ← session.engine.map_withoutBrackets_eq_self_iff]
    exact List.map_inj_right fun _ _ => String.toList_inj.1

theorem statements_arrive_iff_unbracketed_drop :
    Connect.plainSession.Ready ∧
      received ((step ⟨2024, 1, 2, 3, 4, 5, 6⟩ (.operation (.dropTable (.text "t") (.bool true)))).run
        Connect.plainSession).events = ["DROP TABLE IF EXISTS \"t\""] := by
  have ready : Connect.plainSession.Ready := Connect.initial_ready _ rfl (.inr (.inl rfl))
  refine ⟨ready, ?_⟩
  obtain ⟨-, count, positive, -, -, arrive⟩ :=
    (statements_arrive_iff_unbracketed ready ⟨2024, 1, 2, 3, 4, 5, 6⟩).1
      (.dropTable (.text "t") (.bool true)) _ ["DROP TABLE IF EXISTS \"t\""] rfl rfl
  rw [List.take_of_length_le positive] at arrive
  exact arrive.2 (by decide)

/-- An inserted text with brackets arrives with quotes in their place, and is read back as another
text. -/
theorem inserted_brackets_are_lost :
    Connect.plainSession.Ready ∧
      Engine.insert .postgres (.text "t") (.list [.text "c"]) (.list [.text "[x]"])
        = .ok "INSERT INTO \"t\" (\"c\") VALUES ('[x]');" ∧
      ((step ⟨2024, 1, 2, 3, 4, 5, 6⟩ (.operation
        (.insert (.text "t") (.list [.text "c"]) (.list [.text "[x]"])))).run
          Connect.plainSession).failure? = none ∧
      received ((step ⟨2024, 1, 2, 3, 4, 5, 6⟩ (.operation
        (.insert (.text "t") (.list [.text "c"]) (.list [.text "[x]"])))).run Connect.plainSession).events
        = ["INSERT INTO \"t\" (\"c\") VALUES ('\"x\"');"] ∧
      readTexts? "'\"x\"'".toList = some ["\"x\"".toList] := by
  refine ⟨Connect.initial_ready _ rfl (.inr (.inl rfl)), rfl, rfl, by decide, by decide⟩

end Session

end SchemaChange
