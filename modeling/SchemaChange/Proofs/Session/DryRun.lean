/-
# SchemaChange.Proofs.Session.DryRun — a dry run leaves the connection alone

Whatever a dry run is asked to do, no statement is handed to its connection and no
cursor is made, so that the most a connection sees of a whole dry run is its own end
(`traffic_dry`).  A statement answers null and a query no rows, before the
connection is closed and after it (`run_submit_dry`).

* `dry_run_leaves_connection_alone` — both for every session that connecting gives.
-/
import SchemaChange.Proofs.Session.Opening
import SchemaChange.Proofs.Session.Sealed

set_option autoImplicit false

namespace SchemaChange

namespace Statement

/-- Every text can be prepared for every engine. -/
theorem prepare_of_text (engine : Engine) {template : Value} {text : String}
    (isText : template.text? = some text) (params : Value) :
    ∃ sql, prepare engine.dialect template params = .ok sql := by
  have asText : template.asText = .ok text := by simp [Value.asText, isText]
  cases engine <;>
    simp only [prepare, withoutBrackets, asText, Engine.dialect, Dialect.postgres, Dialect.mysql,
      Dialect.sqlite, Value.text?, bind, Except.bind] <;>
    split <;> exact ⟨_, rfl⟩

end Statement

namespace Session

variable {session : Session}

/-- What reaches the connection or its client library over a run. -/
def traffic (steps : List (Timestamp × Step)) (session : Session) : List Event :=
  (seen steps session).filter Event.isTraffic

theorem traffic_cons (now : Timestamp) (next : Step) (rest : List (Timestamp × Step))
    (session : Session) :
    traffic ((now, next) :: rest) session =
      ((step now next).run session).events.filter Event.isTraffic ++
        traffic rest ((step now next).run session).state := by
  rw [traffic, seen_cons, List.filter_append, traffic]

/-- Parameters that are absent or can be listed. -/
def Listable (params : Value) : Prop :=
  params.truthy = true → ∃ values, params.items = .ok values

theorem parameterValues_of_listable {params : Value} (listable : Listable params) :
    ∃ values, parameterValues params = .ok values := by
  unfold parameterValues
  split
  · rename_i given
    obtain ⟨values, items⟩ := listable given
    exact ⟨some values, by rw [items]; rfl⟩
  · exact ⟨none, rfl⟩

/-- A statement answers null in a dry run. -/
theorem run_submit_dry (dry : session.dryRun.truthy = true) {template params : Value}
    (isText : template.text?.isSome = true) (listable : Listable params) :
    ((submit template params).run session).result = .ok .null := by
  obtain ⟨text, isText⟩ := Option.isSome_iff_exists.1 isText
  obtain ⟨sql, prepared⟩ := Statement.prepare_of_text session.engine isText params
  obtain ⟨values, listed⟩ := parameterValues_of_listable listable
  rw [run_submit_announced prepared listed, handle_dry dry]

/-- A connection that has not been used sees nothing of its end but the end. -/
theorem close_unused {link : Link} (unused : link.Unused) (closing : Closing) :
    ((Link.close closing).run link).state.Unused ∧
      (((Link.close closing).run link).events = [] ∨
        ((Link.close closing).run link).events = [.close]) := by
  cases link with
  | plain replies => exact ⟨trivial, .inr rfl⟩
  | adapter own =>
      rw [Link.run_close_adapter, Adapter.run_close_without_cursor unused]
      exact ⟨unused, .inr rfl⟩
  | bare value =>
      cases value with
      | connection handle => exact ⟨trivial, .inr rfl⟩
      | _ => exact ⟨trivial, .inl rfl⟩

/-- One step of a dry run: nothing reaches the connection, or its end does, which can happen only
while it is open. -/
theorem step_dry (dry : session.dryRun.truthy = true) (unused : session.link.Unused)
    (now : Timestamp) (next : Step) :
    ((step now next).run session).state.dryRun = session.dryRun ∧
      ((step now next).run session).state.link.Unused ∧
      (session.closed = true → ((step now next).run session).state.closed = true) ∧
      (((step now next).run session).events.filter Event.isTraffic = [] ∨
        session.closed = false ∧ ((step now next).run session).state.closed = true ∧
          ((step now next).run session).events.filter Event.isTraffic = [.close]) := by
  cases next with
  | operation operation =>
      obtain ⟨same, quiet⟩ := perform_sealed (.inl dry) (operation.script session.engine now)
      rw [run_step_operation, same]
      exact ⟨rfl, unused, id, .inl (List.filter_eq_nil_iff.2 (by simpa using quiet))⟩
  | expireCursor =>
      rw [run_step_expireCursor]
      refine ⟨rfl, ?_, id, .inl rfl⟩
      unfold Link.Unused Link.expireCursor Adapter.expire
      cases link : session.link with
      | adapter own =>
          rw [link] at unused
          exact congrArg (Option.map _) unused
      | _ => trivial
  | close =>
      rw [run_step_close]
      cases closed : session.closed with
      | true =>
          rw [run_close_of_closed closed]
          refine ⟨rfl, unused, fun _ => closed, .inl (List.filter_eq_nil_iff.2 ?_)⟩
          intro event member
          simp [session.logging.note_isTraffic _ event member]
      | false =>
          rw [run_close_of_open closed]
          obtain ⟨still, none | one⟩ := close_unused unused session.closing
          · exact ⟨rfl, still, fun _ => rfl, .inl (by simp [none])⟩
          · exact ⟨rfl, still, fun _ => rfl, .inr ⟨rfl, rfl, by simp [one, Event.isTraffic]⟩⟩

/-- What a connection sees of a dry run is nothing, or its end if it was open. -/
theorem traffic_dry (steps : List (Timestamp × Step)) (dry : session.dryRun.truthy = true)
    (unused : session.link.Unused) :
    traffic steps session = [] ∨ session.closed = false ∧ traffic steps session = [.close] := by
  induction steps generalizing session with
  | nil => exact .inl rfl
  | cons head rest ih =>
      obtain ⟨now, next⟩ := head
      obtain ⟨sameDry, still, remains, quiet | ⟨opened, closed, ending⟩⟩ :=
        step_dry dry unused now next
      · rw [traffic_cons, quiet, List.nil_append]
        rcases ih (sameDry ▸ dry) still with nothing | ⟨opened, ending⟩
        · exact .inl nothing
        · refine .inr ⟨?_, ending⟩
          cases flag : session.closed with
          | false => rfl
          | true => rw [remains flag] at opened; cases opened
      · -- the connection has ended here, so the rest of the run sees a closed one
        rw [traffic_cons, ending]
        rcases ih (sameDry ▸ dry) still with nothing | ⟨open', -⟩
        · exact .inr ⟨opened, by rw [nothing]; rfl⟩
        · rw [closed] at open'; cases open'

/-- A dry run stays one. -/
theorem runAll_dry (steps : List (Timestamp × Step)) (dry : session.dryRun.truthy = true)
    (unused : session.link.Unused) : (runAll steps session).2.dryRun.truthy = true := by
  have kept : (runAll steps session).2.dryRun.truthy = true ∧ (runAll steps session).2.link.Unused := by
    refine runAll_invariant (fun state => state.dryRun.truthy = true ∧ state.link.Unused)
      (fun _ => True)
      (fun state keeps now next _ => ?_) (fun _ _ => trivial) ⟨dry, unused⟩
    obtain ⟨same, still, -⟩ := step_dry keeps.1 keeps.2 now next
    exact ⟨same ▸ keeps.1, still⟩
  exact kept.1

/-- **A dry run leaves the connection alone.**  Over every run of a session whose configuration
asks for a dry run, no statement is handed to the connection, nothing is read from it and no cursor
is made, and all that reaches it is one end at most; and wherever the run stands, a statement
answers null and a query no rows. -/
theorem dry_run_leaves_connection_alone {surroundings : Surroundings} {logging : Logging}
    {source : Source} {config : Config} {session : Session}
    (read : Connect.readSource source = .ok config) (dry : config.dryRun.truthy = true)
    (opened : ((Connect.connect surroundings logging source).run ()).result = .ok session)
    (steps : List (Timestamp × Step)) :
    (∀ outcome ∈ (runAll steps session).1, ∀ event ∈ outcome.events,
      event.isStatementTraffic = false) ∧
    (traffic steps session = [] ∨ traffic steps session = [.close]) ∧
    ∀ now template params, template.text?.isSome = true → Listable params →
      ((step now (.operation (.run template params))).run (runAll steps session).2).result
          = .ok .null ∧
        ((step now (.operation (.query template params))).run (runAll steps session).2).result
          = .ok (.list []) := by
  obtain ⟨found, same, rfl⟩ := Connect.connect_eq_ok opened
  obtain rfl : config = found := by rw [read] at same; cases same; rfl
  have unused := Connect.initial_unused surroundings logging config
  have once : traffic steps (Connect.initial surroundings logging config) = [] ∨
      traffic steps (Connect.initial surroundings logging config) = [.close] :=
    (traffic_dry steps dry unused).imp id And.right
  refine ⟨fun outcome ran event member => ?_, once, fun now template params isText listable => ?_⟩
  · cases sent : event.isStatementTraffic with
    | false => rfl
    | true =>
        have reaches := Event.isTraffic_of_isStatementTraffic sent
        have seen : event ∈ traffic steps (Connect.initial surroundings logging config) :=
          List.mem_filter.2 ⟨List.mem_flatMap.2 ⟨outcome, ran, member⟩, reaches⟩
        rcases once with nothing | ending
        · rw [nothing] at seen
          cases seen
        · rw [ending, List.mem_singleton] at seen
          subst seen
          cases sent
  · have still := runAll_dry steps dry unused
    have answer := run_submit_dry still isText listable
    refine ⟨?_, ?_⟩
    · rw [run_step_operation, Operation.script, perform, Act.run_bind_ok answer]
      rfl
    · rw [run_step_operation, Operation.script, perform]
      have rows : ((fetch template params).run
          (runAll steps (Connect.initial surroundings logging config)).2).result = .ok [] := by
        rw [run_fetch, Act.run_bind_ok answer]
        rfl
      rw [Act.run_bind_ok rows]
      rfl

/-- A rename, which reads before it writes, between two ends of the connection. -/
def renameBetweenEnds : List (Timestamp × Step) :=
  let now := ⟨2024, 1, 2, 3, 4, 5, 6⟩
  [(now, .operation (.renameColumn (.text "t") (.text "a") (.text "b"))), (now, .close),
    (now, .operation (.renameColumn (.text "t") (.text "a") (.text "b"))), (now, .close)]

theorem dry_run_leaves_connection_alone_mysql :
    let config := Connect.plainConfig .mysql .null (.bool true)
    let session := Connect.initial Connect.quietSurroundings ⟨5, true⟩ config
    Connect.readSource (.config config) = .ok config ∧ config.dryRun.truthy = true ∧
      ((Connect.connect Connect.quietSurroundings ⟨5, true⟩ (.config config)).run ()).result
        = .ok session ∧
      (traffic renameBetweenEnds session = [] ∨ traffic renameBetweenEnds session = [.close]) ∧
      ((step ⟨2024, 1, 2, 3, 4, 5, 7⟩ (.operation (.run (.text "select ?") (.list [.int 1])))).run
        (runAll renameBetweenEnds session).2).result = .ok .null := by
  have opened : ((Connect.connect Connect.quietSurroundings ⟨5, true⟩
      (.config (Connect.plainConfig .mysql .null (.bool true)))).run ()).result = .ok
        (Connect.initial Connect.quietSurroundings ⟨5, true⟩
          (Connect.plainConfig .mysql .null (.bool true))) := rfl
  obtain ⟨-, once, answers⟩ :=
    dry_run_leaves_connection_alone rfl rfl opened renameBetweenEnds
  exact ⟨rfl, rfl, opened, once, (answers _ _ _ rfl fun _ => ⟨_, rfl⟩).1⟩

end Session

end SchemaChange
