/-
# SchemaChange.Proofs.Session.Ready — sessions whose statements get to the database

A session is ready if it is no dry run, has not been closed, and has a connection that
answers the statements of its engine.  What connecting gives is ready unless it is a
dry run or carries a connection of another kind (`initial_ready`); everything but a
close leaves a session ready (`step_ready`, `runAll_ready`).
-/
import SchemaChange.Proofs.Client.Exchange
import SchemaChange.Proofs.Session.Opening
import SchemaChange.Proofs.Session.Run

set_option autoImplicit false

namespace SchemaChange

theorem Link.query_serves {engine : Engine} {link : Link} (serves : link.Serves engine)
    (sql : String) (params : Option (List Value)) :
    ((Link.query sql params).run link).state.Serves engine := by
  cases link with
  | plain replies => trivial
  | adapter own => exact (Adapter.query_engine sql params own).trans serves
  | bare value => cases serves

theorem Link.expireCursor_serves {engine : Engine} {link : Link} (serves : link.Serves engine) :
    link.expireCursor.Serves engine := by
  cases link with
  | plain replies => trivial
  | adapter own => exact serves
  | bare value => cases serves

namespace Session

variable {α : Type} {session : Session}

/-- Statements get to the database. -/
structure Ready (session : Session) : Prop where
  live : session.dryRun.truthy = false
  opened : session.closed = false
  serves : session.link.Serves session.engine

/-- A statement of a ready session is handed to the connection. -/
theorem Ready.handle (ready : session.Ready) (sql : String) (values : Option (List Value)) :
    session.handle sql values =
      ⟨((Link.query sql values).run session.link).result,
        ((Link.query sql values).run session.link).events,
        { session with link := ((Link.query sql values).run session.link).state }⟩ :=
  handle_open ready.live ready.opened sql values

/-- What happens leaves a ready session ready. -/
def Lasting : Act.Rule Failure Session Event := fun before _ _ after => before.Ready → after.Ready

theorem lasting_sequential : Lasting.Sequential where
  still _ _ := id
  append head tail := tail ∘ head

theorem submit_lasting (template params : Value) : (submit template params).Follows Lasting := by
  intro session ready
  rcases submit_cases template params session with
    ⟨failure, -, run⟩ | ⟨sql, failure, -, -, run⟩ | ⟨sql, values, -, -, run⟩
  · rw [run]
    exact ready
  · rw [run]
    exact ready
  · rw [run, ready.handle]
    exact ⟨ready.live, ready.opened, Link.query_serves ready.serves sql values⟩

theorem fetch_ready (ready : session.Ready) (template params : Value) :
    ((fetch template params).run session).state.Ready :=
  fetch_follows lasting_sequential template params (submit_lasting template params) session ready

/-- Whatever a script asks for and is answered, a ready session stays ready. -/
theorem perform_ready (ready : session.Ready) (script : Script α) :
    ((perform script).run session).state.Ready :=
  perform_follows lasting_sequential (fun _ _ => id) submit_lasting script session ready

theorem step_ready (ready : session.Ready) (now : Timestamp) {next : Step}
    (notClose : next ≠ .close) : ((step now next).run session).state.Ready := by
  cases next with
  | operation operation =>
      rw [run_step_operation]
      exact perform_ready ready _
  | close => exact absurd rfl notClose
  | expireCursor => exact ⟨ready.live, ready.opened, Link.expireCursor_serves ready.serves⟩

/-- Over a run without a close a ready session stays ready. -/
theorem runAll_ready (ready : session.Ready) {steps : List (Timestamp × Step)}
    (notClose : ∀ timed ∈ steps, timed.2 ≠ .close) : (runAll steps session).2.Ready :=
  runAll_invariant Ready (· ≠ .close)
    (fun _ still now _ admitted => step_ready still now admitted) notClose ready

end Session

namespace Connect

/-- A configuration carries no connection, one that answers queries itself, or one of the engine's
own client library, which is there. -/
def Usable (surroundings : Surroundings) (config : Config) : Prop :=
  config.connection = .null ∨ config.connection = .connection .plain ∨
    (config.connection = .connection (.raw config.engine) ∧
      isInstalled surroundings config.engine = true)

/-- **What connecting gives is ready**, if it is no dry run and its connection can be used. -/
theorem initial_ready {surroundings : Surroundings} {config : Config} (logging : Logging)
    (live : config.dryRun.truthy = false) (usable : Usable surroundings config) :
    (initial surroundings logging config).Ready where
  live := live
  opened := rfl
  serves := by
    rcases usable with absent | plain | own
    · rw [initial_link_adapted logging (.inl absent)]
      rfl
    · simp only [initial, initialLink, plain]
      trivial
    · rw [initial_link_adapted logging (.inr own)]
      rfl

end Connect

end SchemaChange
