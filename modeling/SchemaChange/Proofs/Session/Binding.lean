/-
# SchemaChange.Proofs.Session.Binding — a statement and its values meet at the cursor

Over an adapter that hands values to its cursor, a statement is executed once, as it was
prepared and with the values that were listed (`executed_submit`).  The statement is
prepared for values exactly if values go with it, although the two are decided apart: by
the truth of the parameters when it is prepared, and by the values when it is executed.

* `statements_survive_interpolation` — so what MySQL's client library makes of a statement
  with values is the template with the values in their place, and a statement without
  values is not interpolated at all.
-/
import SchemaChange.Proofs.Session.Audit
import SchemaChange.Proofs.Statement.Interpolation

set_option autoImplicit false

namespace SchemaChange

open SchemaChange.Statement (dropBrackets filled interpolate parameterCount)

/-- The statement and the values that an event hands to a cursor. -/
def Event.executed? : Event → Option (String × Option (List Value))
  | .execute sql values => some (sql, values)
  | _ => none

/-- What cursors execute among events, in order. -/
def executed (events : List Event) : List (String × Option (List Value)) :=
  events.filterMap Event.executed?

theorem executed_append (first rest : List Event) :
    executed (first ++ rest) = executed first ++ executed rest :=
  List.filterMap_append

theorem executed_eq_nil {events : List Event} (silent : ∀ event ∈ events, event.isTraffic = false) :
    executed events = [] := by
  rw [executed, List.filterMap_eq_nil_iff]
  intro event member
  have untold := silent event member
  cases event with
  | execute sql values => cases untold
  | _ => rfl

/-! ## Executions -/

theorem Execution.executed_events (execution : Execution) (reply : CursorReply) :
    executed (execution.events reply) = [(execution.sql, execution.params)] := by
  unfold Execution.events
  split <;> rfl

/-- A single execution is executed, whatever becomes of it. -/
theorem Conducted.executes {engine : Engine} {execution : Execution}
    {before after : List CursorReply} {events : List Event} {fault : Option AdapterError}
    (conducted : Conducted engine [execution] before events fault after) :
    executed events = [(execution.sql, execution.params)] := by
  cases conducted with
  | accepted fine others =>
      cases others
      rw [List.append_nil, Execution.executed_events]
  | failed here => exact Execution.executed_events _ _

namespace Adapter

/-- An engine without prepared statements executes a statement with its values. -/
theorem executions_direct {adapter : Adapter} (direct : adapter.engine ≠ .postgres) (sql : String)
    {values : Option (List Value)} (given : values ≠ some []) :
    adapter.executions sql values = [⟨sql, values, true⟩] := by
  unfold executions
  split
  · rfl
  · exact absurd rfl given
  · split
    · rename_i postgres
      exact absurd postgres direct
    · rfl

theorem executed_cursorEvents (adapter : Adapter) : executed adapter.cursorEvents = [] := by
  unfold cursorEvents
  split <;> rfl

theorem executed_query {adapter : Adapter} (direct : adapter.engine ≠ .postgres) (sql : String)
    {values : Option (List Value)} (given : values ≠ some []) :
    executed ((query sql values).run adapter).events = [(sql, values)] := by
  obtain ⟨events, replies, seen, conducted, -⟩ := answer_conducted sql values adapter
  rw [executions_direct direct sql given] at conducted
  show executed ((answer sql values).run adapter).events = _
  rw [seen, executed_append, executed_cursorEvents, conducted.executes]
  rfl

end Adapter

namespace Session

variable {session : Session}

/-- A statement of a ready session over such an adapter is executed as it was prepared, with the
values that were listed. -/
theorem executed_submit (ready : session.Ready) {own : Adapter} (client : session.link = .adapter own)
    (direct : session.engine ≠ .postgres) {template params : Value} {sql : String}
    {values : Option (List Value)}
    (prepared : Statement.prepare session.engine.dialect template params = .ok sql)
    (listed : parameterValues params = .ok values) :
    executed ((submit template params).run session).events = [(sql, values)] := by
  have kind : own.engine = session.engine := by
    have serves := ready.serves
    rw [client] at serves
    exact serves
  have recorded : executed (session.logging.record sql values) = [] :=
    executed_eq_nil (session.logging.record_isTraffic sql values)
  rw [run_submit_announced prepared listed, ready.handle, executed_append, recorded, client]
  exact Adapter.executed_query (kind ▸ direct) sql (parameterValues_ne_nil listed)

/-- What follows a statement without events does not add to its events. -/
theorem events_bind {α β : Type} {first : Doing α} {next : α → Doing β}
    (silent : ∀ a state, ((next a).run state).events = []) (session : Session) :
    ((first >>= next).run session).events = (first.run session).events := by
  cases result : (first.run session).result with
  | ok a => rw [Act.run_bind_ok result, silent, List.append_nil]
  | error failure => rw [Act.run_bind_error result]

theorem events_run (now : Timestamp) (template params : Value) (session : Session) :
    ((step now (.operation (.run template params))).run session).events
      = ((submit template params).run session).events := by
  rw [run_step_operation]
  exact events_bind (fun _ _ => rfl) session

theorem events_query (now : Timestamp) (template params : Value) (session : Session) :
    ((step now (.operation (.query template params))).run session).events
      = ((submit template params).run session).events := by
  rw [run_step_operation]
  show ((fetch template params >>= fun rows => perform (pure _)).run session).events = _
  rw [events_bind (fun _ _ => rfl), run_fetch, events_bind fun _ _ => rfl]

/-- **Statements survive the interpolation of MySQL's client library.**  Over every ready session of
MySQL over the client library's connection, a template with values that can be listed is executed
once, with these values and as a format without stray percent signs, which can be filled exactly if
there are as many values as question marks, and is then the template without its brackets and with
the values in the place of its question marks; and a template without values is executed once,
without a list of values, as it is but for its brackets. -/
theorem statements_survive_interpolation (ready : session.Ready) {own : Adapter}
    (client : session.link = .adapter own) (mysql : session.engine = .mysql) (now : Timestamp)
    {template : Value} {text : String} (isText : template.text? = some text) (params : Value) :
    (∀ values, params.truthy = true → params.items = .ok values →
      ∃ format : String,
        executed ((step now (.operation (.run template params))).run session).events
          = [(format, some values)] ∧
        executed ((step now (.operation (.query template params))).run session).events
          = [(format, some values)] ∧
        interpolate format.toList values ≠ .error .strayPercent ∧
        ∀ pieces, interpolate format.toList values = .ok pieces ↔
          values.length = parameterCount text.toList ∧
            pieces = filled (dropBrackets text.toList) values) ∧
    (params.truthy = false →
      executed ((step now (.operation (.run template params))).run session).events
          = [(String.ofList (dropBrackets text.toList), none)] ∧
        executed ((step now (.operation (.query template params))).run session).events
          = [(String.ofList (dropBrackets text.toList), none)]) := by
  have direct : session.engine ≠ .postgres := by
    rw [mysql]
    decide
  have prepared := Statement.prepare_mysql isText params
  have dialect : session.engine.dialect = Dialect.mysql := by
    rw [mysql]
    rfl
  rw [← dialect] at prepared
  rw [events_run, events_query]
  constructor
  · intro values given items
    have listed : parameterValues params = .ok (some values) := by
      rw [parameterValues, if_pos given, items]
      rfl
    have once := executed_submit ready client direct prepared listed
    rw [if_pos given] at once
    refine ⟨_, once, once, ?_, ?_⟩
    · rw [String.toList_ofList]
      exact Statement.interpolate_markAll_ne_stray
    · intro pieces
      rw [String.toList_ofList, Statement.interpolate_markAll_eq_ok_iff,
        Statement.parameterCount_dropBrackets]
  · intro absent
    have listed : parameterValues params = .ok none := by
      rw [parameterValues, if_neg (by simp [absent])]
    have once := executed_submit ready client direct prepared listed
    rw [if_neg (by simp [absent])] at once
    exact ⟨once, once⟩

/-- A template in which percent signs stand alone, together, and next to a question mark. -/
def mixedTemplate : String := "select '%s', 7 % 2, 100%% from [t] where a = ? and b like '%?%'"

theorem statements_survive_interpolation_mixed :
    let session := Connect.initial Connect.quietSurroundings ⟨5, true⟩
      (Connect.plainConfig .mysql .null (.bool false))
    let values : List Value := [.int 1, .text "%d"]
    let outcome := (step ⟨2024, 1, 2, 3, 4, 5, 6⟩
      (.operation (.run (.text mixedTemplate) (.list values)))).run session
    session.Ready ∧ session.link = .adapter (.fresh .mysql []) ∧ session.engine = .mysql ∧
      (Value.text mixedTemplate).text? = some mixedTemplate ∧
      (Value.list values).truthy = true ∧ (Value.list values).items = .ok values ∧
      values.length = parameterCount mixedTemplate.toList ∧
      ∃ format : String, executed outcome.events = [(format, some values)] ∧
        interpolate format.toList values
          = .ok (filled (dropBrackets mixedTemplate.toList) values) := by
  intro session values outcome
  have ready : session.Ready := Connect.initial_ready _ rfl (.inl rfl)
  have client : session.link = .adapter (.fresh .mysql []) := rfl
  have mysql : session.engine = .mysql := rfl
  have isText : (Value.text mixedTemplate).text? = some mixedTemplate := rfl
  have enough : values.length = parameterCount mixedTemplate.toList := by decide
  obtain ⟨format, once, -, -, filling⟩ := (statements_survive_interpolation ready client mysql
    ⟨2024, 1, 2, 3, 4, 5, 6⟩ isText (.list values)).1 values rfl rfl
  exact ⟨ready, client, mysql, isText, rfl, rfl, enough, format, once, (filling _).2 ⟨enough, rfl⟩⟩

end Session

end SchemaChange
