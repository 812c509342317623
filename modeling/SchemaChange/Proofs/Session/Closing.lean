/-
# SchemaChange.Proofs.Session.Closing — a connection ends once

The end of a connection is a state that a session reaches at the first close and
never leaves, whether or not the close fails: the flag is set before the connection
is told.  The connection itself is closed by nothing but that first close
(`ends_at_most_once`), and once the flag is set nothing reaches it any more
(`seen_silent`).

* `connect_unended` — connecting closes no connection that it then hands over.
* `run_perform_ended` — a script that asks for a statement after the end records this
  one statement and is refused with the report that the connection is closed.
* `connection_ends_once` — all of this for every session that connecting gives.
-/
import SchemaChange.Proofs.Client.Exchange
import SchemaChange.Proofs.Session.Opening
import SchemaChange.Proofs.Session.Sealed

set_option autoImplicit false

namespace SchemaChange

/-- Whether an event is the end of a connection. -/
def Event.isClose : Event → Bool
  | .close => true
  | _ => false

/-- How often a connection ends among events. -/
def ends (events : List Event) : Nat :=
  events.countP Event.isClose

@[simp] theorem ends_append (first rest : List Event) :
    ends (first ++ rest) = ends first + ends rest :=
  List.countP_append

theorem ends_eq_zero {events : List Event} (none : ∀ event ∈ events, event.isClose = false) :
    ends events = 0 := by
  rw [ends, List.countP_eq_zero]
  intro event member
  simp [none event member]

/-! ## The connection's own part -/

theorem Adapter.ends_close (closing : Closing) (adapter : Adapter) :
    ends ((Adapter.close closing).run adapter).events ≤ 1 := by
  cases cursor : adapter.cursor with
  | none =>
      rw [Adapter.run_close_without_cursor cursor]
      exact Nat.le_refl 1
  | some state =>
      rw [Adapter.run_close_with_cursor cursor]
      cases closing.cursorError with
      | none => exact Nat.le_refl 1
      | some message => exact Nat.zero_le 1

/-- Closing an adapter is closing its cursor and its connection, and nothing else. -/
theorem Adapter.mem_close {closing : Closing} {adapter : Adapter} {event : Event}
    (member : event ∈ ((Adapter.close closing).run adapter).events) :
    event = .cursorClose ∨ event = .close := by
  cases cursor : adapter.cursor with
  | none =>
      rw [Adapter.run_close_without_cursor cursor] at member
      exact .inr (List.mem_singleton.1 member)
  | some state =>
      rw [Adapter.run_close_with_cursor cursor] at member
      cases error : closing.cursorError with
      | none =>
          rw [error] at member
          rcases List.mem_cons.1 member with rfl | later
          · exact .inl rfl
          · exact .inr (List.mem_singleton.1 later)
      | some message =>
          rw [error] at member
          exact .inl (List.mem_singleton.1 member)

theorem Link.ends_close (closing : Closing) (link : Link) :
    ends ((Link.close closing).run link).events ≤ 1 := by
  cases link with
  | plain replies => exact Nat.le_refl 1
  | adapter own => exact Adapter.ends_close closing own
  | bare value =>
      cases value with
      | connection handle => exact Nat.le_refl 1
      | _ => exact Nat.zero_le 1

theorem Link.ends_query (sql : String) (params : Option (List Value)) (link : Link) :
    ends ((Link.query sql params).run link).events = 0 := by
  refine ends_eq_zero fun event member => ?_
  have sent := Link.query_isStatementTraffic member
  cases event with
  | close => cases sent
  | _ => rfl

namespace Script

variable {α : Type}

/-- The statement or query, with its parameters, that a script asks for first when statements are
not only logged. -/
def request? : Script α → Option (Value × Value)
  | .done _ => none
  | .note _ next => next.request?
  | .submit template params _ | .fetch template params _ => some (template, params)
  | .askDryRun next => (next false).request?

/-- The notes that a script leaves before its first request. -/
def preface : Script α → List Note
  | .note n next => n :: next.preface
  | .askDryRun next => (next false).preface
  | _ => []

end Script

namespace Session

variable {α : Type} {session : Session}

/-! ## What a step does about the end -/

/-- No connection ends. -/
def Endless : Act.Rule Failure Session Event := fun _ events _ _ => ends events = 0

theorem endless_sequential : Endless.Sequential where
  still _ _ := rfl
  append := by
    intro before middle after first rest _ head tail
    show ends (first ++ rest) = 0
    rw [ends_append, head, tail]

theorem ends_record (logging : Logging) (sql : String) (values : Option (List Value)) :
    ends (logging.record sql values) = 0 := by
  refine ends_eq_zero fun event member => ?_
  have untold := logging.record_isTraffic sql values event member
  cases event with
  | close => cases untold
  | _ => rfl

theorem ends_note (logging : Logging) (n : Note) : ends (logging.note n) = 0 := by
  unfold Logging.note
  split <;> rfl

theorem submit_endless (template params : Value) : (submit template params).Follows Endless := by
  intro session
  rcases submit_cases template params session with
    ⟨failure, -, run⟩ | ⟨sql, failure, -, -, run⟩ | ⟨sql, values, -, -, run⟩
  · rw [run]
    rfl
  · rw [run]
    exact ends_record _ _ none
  · rw [run]
    show ends (_ ++ _) = 0
    rw [ends_append, ends_record, Nat.zero_add]
    rcases Bool.eq_false_or_eq_true session.dryRun.truthy with dry | live
    · rw [handle_dry dry]
      rfl
    · rcases Bool.eq_false_or_eq_true session.closed with closed | opened
      · rw [handle_closed live closed]
        rfl
      · rw [handle_open live opened]
        exact Link.ends_query sql values session.link

/-- A script ends no connection. -/
theorem perform_endless (script : Script α) (session : Session) :
    ends ((perform script).run session).events = 0 :=
  perform_follows endless_sequential (fun n session => ends_note session.logging n) submit_endless
    script session

/-- A step that ends the connection turns an open session into a closed one. -/
theorem ends_step (now : Timestamp) (next : Step) (session : Session) :
    ends ((step now next).run session).events + session.closed.toNat
      ≤ ((step now next).run session).state.closed.toNat := by
  have flag : ((step now next).run session).state.closed = (session.closed || next.isClose) := by
    rw [step_closed]
  cases next with
  | operation operation =>
      have none : ends ((step now (.operation operation)).run session).events = 0 := by
        rw [run_step_operation]
        exact perform_endless _ session
      rw [flag, Step.isClose, Bool.or_false]
      omega
  | expireCursor =>
      have none : ends ((step now .expireCursor).run session).events = 0 := rfl
      rw [flag, Step.isClose, Bool.or_false]
      omega
  | close =>
      rw [flag, Step.isClose, Bool.or_true, run_step_close]
      rcases Bool.eq_false_or_eq_true session.closed with closed | opened
      · have none := ends_note session.logging (closedAgain session.engine)
        rw [run_close_of_closed closed, closed]
        show ends (session.logging.note _) + 1 ≤ 1
        omega
      · have once := Link.ends_close session.closing session.link
        rw [run_close_of_open opened, opened]
        exact once

/-! ## Runs -/

/-- Over a run the connection ends at most once, and not at all if it has ended before. -/
theorem ends_at_most_once (steps : List (Timestamp × Step)) (session : Session) :
    ends (seen steps session) + session.closed.toNat ≤ (runAll steps session).2.closed.toNat := by
  induction steps generalizing session with
  | nil => exact Nat.le_of_eq (Nat.zero_add _)
  | cons head rest ih =>
      obtain ⟨now, next⟩ := head
      have here := ends_step now next session
      have later := ih ((step now next).run session).state
      show _ ≤ (runAll rest ((step now next).run session).state).2.closed.toNat
      rw [seen_cons, ends_append]
      omega

/-- After the end of the connection nothing reaches it. -/
theorem step_silent (closed : session.closed = true) (now : Timestamp) (next : Step) :
    ∀ event ∈ ((step now next).run session).events, event.isTraffic = false := by
  cases next with
  | operation operation =>
      rw [run_step_operation]
      exact (perform_sealed (.inr closed) _).2
  | expireCursor =>
      intro event member
      cases member
  | close =>
      rw [run_step_close, run_close_of_closed closed]
      exact session.logging.note_isTraffic _

theorem seen_silent (closed : session.closed = true) (steps : List (Timestamp × Step)) :
    ∀ event ∈ seen steps session, event.isTraffic = false := by
  induction steps generalizing session with
  | nil =>
      intro event member
      cases member
  | cons head rest ih =>
      obtain ⟨now, next⟩ := head
      intro event member
      rw [seen_cons] at member
      rcases List.mem_append.1 member with here | later
      · exact step_silent closed now next event here
      · have still : ((step now next).run session).state.closed = true := by
          rw [step_closed, closed, Bool.true_or]
        exact ih still event later

/-! ## A statement after the end -/

/-- **After the end of the connection a script records the first statement that it asks for, is
refused it, and goes no further.** -/
theorem run_perform_ended (live : session.dryRun.truthy = false) (closed : session.closed = true)
    {script : Script α} {template params : Value} {sql : String} {values : Option (List Value)}
    (asked : script.request? = some (template, params))
    (prepared : Statement.prepare session.engine.dialect template params = .ok sql)
    (listed : parameterValues params = .ok values) :
    (perform script).run session =
      ⟨.error (.report (closedReport session.engine)),
        script.preface.flatMap session.logging.note ++ session.logging.record sql values,
        session⟩ := by
  have refused : (submit template params).run session =
      ⟨.error (.report (closedReport session.engine)), session.logging.record sql values,
        session⟩ := by
    rw [run_submit_announced prepared listed, handle_closed live closed, List.append_nil]
  induction script with
  | done outcome => cases asked
  | note n next ih =>
      rw [perform, Act.run_bind_ok (by rfl), run_note]
      simp only [ih asked, Script.preface, List.flatMap_cons, List.append_assoc]
  | submit first second next ih =>
      cases asked
      rw [perform, Act.run_bind_error (by rw [refused]), refused]
      rfl
  | fetch first second next ih =>
      cases asked
      have fetched : (fetch template params).run session =
          ⟨.error (.report (closedReport session.engine)), session.logging.record sql values,
            session⟩ := by
        rw [run_fetch, Act.run_bind_error (by rw [refused]), refused]
      rw [perform, Act.run_bind_error (by rw [fetched]), fetched]
      rfl
  | askDryRun next ih =>
      rw [perform, Act.run_get_bind, live]
      exact ih false asked

end Session

/-! ## Connecting -/

namespace Connect

/-- Where this succeeds, no connection has ended on the way. -/
def Unended : Act.Rule Failure Unit Event := fun _ events failure? _ =>
  failure? = none → ends events = 0

/-- The connection to a library that is too old does end, but then there is no session. -/
theorem unended_accepted (logging : Logging) : Accepts logging Unended where
  sequential :=
    { still := fun _ _ _ => rfl
      append := by
        intro before middle after first rest _ head tail fine
        rw [ends_append, head rfl, tail fine] }
  notes _ _ := Session.ends_note logging _
  asks _ _ _ := rfl
  configures _ _ := rfl
  rejects _ := nofun

/-- **Connecting, where it gives a session, ends no connection.** -/
theorem connect_unended (surroundings : Surroundings) (logging : Logging) (source : Source) :
    (connect surroundings logging source).Follows Unended :=
  (unended_accepted logging).connect surroundings source

end Connect

namespace Session

/-- **A connection ends once.**  Over every run of a live session, whatever its connection answers
and even if it cannot be closed: the session is closed exactly when a close has been asked for;
with connecting and the run taken together the connection ends at most once; after the first close
nothing reaches it; and from then on an operation that asks for a statement records this one
statement, is refused with the report that the connection is closed, and does nothing more. -/
theorem connection_ends_once {surroundings : Surroundings} {logging : Logging} {source : Source}
    {config : Config} {session : Session} (read : Connect.readSource source = .ok config)
    (live : config.dryRun.truthy = false)
    (opened : ((Connect.connect surroundings logging source).run ()).result = .ok session)
    (steps : List (Timestamp × Step)) :
    let after := (runAll steps session).2
    (after.closed = steps.any fun timed => timed.2.isClose) ∧
    ends (((Connect.connect surroundings logging source).run ()).events ++ seen steps session) ≤ 1 ∧
    (after.closed = true →
      (∀ later, ∀ event ∈ seen later after, event.isTraffic = false) ∧
      ∀ (now : Timestamp) (operation : Operation) (template params : Value) (sql : String)
        (values : Option (List Value)),
        (operation.script config.engine now).request? = some (template, params) →
        Statement.prepare config.engine.dialect template params = .ok sql →
        parameterValues params = .ok values →
        (step now (.operation operation)).run after =
          ⟨.error (.report (closedReport config.engine)),
            (operation.script config.engine now).preface.flatMap logging.note ++
              logging.record sql values,
            after⟩) ∧
    (closedReport config.engine).trouble = .connection .null config.engine.dialect.name := by
  obtain ⟨found, same, rfl⟩ := Connect.connect_eq_ok opened
  obtain rfl : config = found := by rw [read] at same; cases same; rfl
  have final := runAll_closed steps (Connect.initial surroundings logging config)
  refine ⟨?_, ?_, fun closed => ⟨fun later => seen_silent closed later, ?_⟩, ?_⟩
  · rw [final]
    exact Bool.false_or _
  · have unended := Connect.connect_unended surroundings logging source ()
      (by rw [Outcome.failure?, opened])
    have once := ends_at_most_once steps (Connect.initial surroundings logging config)
    have bound := Bool.toNat_le (runAll steps (Connect.initial surroundings logging config)).2.closed
    rw [ends_append, unended]
    omega
  · intro now operation template params sql values asked prepared listed
    rw [final] at closed ⊢
    rw [run_step_operation]
    exact run_perform_ended live closed asked prepared listed
  · rw [Engine.dialect_name]
    rfl

/-- A close that fails, and another one, after a statement. -/
def failingClose : List (Timestamp × Step) :=
  let now := ⟨2024, 1, 2, 3, 4, 5, 6⟩
  [(now, .operation (.dropTable (.text "t") (.bool true))), (now, .close), (now, .close)]

theorem connection_ends_once_postgres :
    let surroundings := { Connect.quietSurroundings with closing := ⟨none, some "gone"⟩ }
    let config := Connect.plainConfig .postgres .null (.bool false)
    let session := Connect.initial surroundings ⟨5, true⟩ config
    let operation := Operation.changeColumn (.text "t") (.text "c") (.kind .string)
    Connect.readSource (.config config) = .ok config ∧ config.dryRun.truthy = false ∧
      ((Connect.connect surroundings ⟨5, true⟩ (.config config)).run ()).result = .ok session ∧
      (runAll failingClose session).2.closed = true ∧
      ends (((Connect.connect surroundings ⟨5, true⟩ (.config config)).run ()).events
        ++ seen failingClose session) ≤ 1 ∧
      ((step ⟨2024, 1, 2, 3, 4, 5, 7⟩ (.operation operation)).run
          (runAll failingClose session).2).result
        = .error (.report (closedReport .postgres)) := by
  have opened : ((Connect.connect { Connect.quietSurroundings with closing := ⟨none, some "gone"⟩ }
      ⟨5, true⟩ (.config (Connect.plainConfig .postgres .null (.bool false)))).run ()).result = .ok
        (Connect.initial { Connect.quietSurroundings with closing := ⟨none, some "gone"⟩ }
          ⟨5, true⟩ (Connect.plainConfig .postgres .null (.bool false))) := rfl
  obtain ⟨closed, once, ended, -⟩ := connection_ends_once rfl rfl opened failingClose
  refine ⟨rfl, rfl, opened, closed, once, ?_⟩
  obtain ⟨-, refused⟩ := ended closed
  rw [refused ⟨2024, 1, 2, 3, 4, 5, 7⟩ (.changeColumn (.text "t") (.text "c") (.kind .string))
    _ _ _ _ rfl rfl rfl]
  rfl

end Session

end SchemaChange
