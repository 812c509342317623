/-
# SchemaChange.Proofs.Session.Cursors — the cursor of an adapter over a run

An adapter keeps the newest cursor that it made.  Statements use it, closing ends it, and
it can expire from outside at any time, which only PostgreSQL's adapter notices.  The
state of the newest cursor is a function of what has happened (`cursorAfter`), and the
adapter agrees with it (`Holding`), whatever becomes of the statements.

* `Attended` — how statements come to their cursor, one after the other.
* `Disciplined` — cursors are made only where one is lacking, and used only where none is.
* `step_holding`, `runAll_holding` — operations and expiries are attended and disciplined,
  and the adapter keeps the newest cursor.
* `moments_disciplined` — so is a whole run, with its closes.
* `cursor_is_made_when_lacking` — all of this for every session over a connection of the
  engine's own client library.
-/
import SchemaChange.Proofs.Session.Closing
import SchemaChange.Proofs.Session.Dispatched

set_option autoImplicit false

namespace SchemaChange

/-- Whether a cursor is made. -/
def Event.makesCursor : Event → Bool
  | .cursor _ => true
  | _ => false

/-- What happens to the cursors of a connection: an event, or the end of the newest cursor from
outside. -/
inductive Moment where
  | event (happened : Event)
  | expiry

/-- What of some events reaches a connection. -/
def reaching (events : List Event) : List Moment :=
  (events.filter Event.isTraffic).map .event

/-- Whether a cursor is made at a moment. -/
def Moment.makesCursor : Moment → Bool
  | .event happened => happened.makesCursor
  | .expiry => false

/-- The state of the newest cursor after a moment. -/
def Moment.cursorAfter (cursor : Option CursorState) : Moment → Option CursorState
  | .event happened => if happened.makesCursor then some .usable else cursor
  | .expiry => cursor.map fun _ => .expired

/-- The state of the newest cursor after moments. -/
def cursorAfter (cursor : Option CursorState) (moments : List Moment) : Option CursorState :=
  moments.foldl Moment.cursorAfter cursor

/-- Whether an engine lacks a cursor to execute on: it has made none, or, for PostgreSQL, the newest
has expired. -/
def lacksCursor (engine : Engine) : Option CursorState → Bool
  | none => true
  | some .usable => false
  | some .expired => engine == .postgres

/-- A moment at which a cursor is made only if one is lacking, and used only if none is. -/
def Moment.Allowed (engine : Engine) (cursor : Option CursorState) : Moment → Prop
  | .event happened =>
      (happened.makesCursor = true → lacksCursor engine cursor = true) ∧
        (happened.usesCursor = true → lacksCursor engine cursor = false)
  | .expiry => True

/-- Moments each of which is allowed with the cursor that the moments before leave. -/
def Disciplined (engine : Engine) : Option CursorState → List Moment → Prop
  | _, [] => True
  | cursor, moment :: rest =>
      moment.Allowed engine cursor ∧ Disciplined engine (moment.cursorAfter cursor) rest

/-- What is done on a cursor: a first execution, and more of them and their rows. -/
def IsWork (events : List Event) : Prop :=
  ∃ sql values rest, events = .execute sql values :: rest ∧ ∀ event ∈ rest, event.usesCursor = true

theorem IsWork.usesCursor {events : List Event} (works : IsWork events) :
    ∀ event ∈ events, event.usesCursor = true := by
  obtain ⟨sql, values, rest, rfl, uses⟩ := works
  intro event member
  rcases List.mem_cons.1 member with rfl | later
  · rfl
  · exact uses event later

/-- Statements come to a cursor, one after the other: where one is lacking a cursor is made at once
before the work on the statement, and where none is the newest is kept.  What came of the statements
makes no difference to it. -/
inductive Attended (engine : Engine) :
    Option CursorState → List Dispatched → List Event → Option CursorState → Prop
  | idle (cursor : Option CursorState) : Attended engine cursor [] [] cursor
  | made {cursor after : Option CursorState} {sent : Dispatched} {others : List Dispatched}
      {work events : List Event} (lacks : lacksCursor engine cursor = true) (works : IsWork work)
      (rest : Attended engine (some .usable) others events after) :
      Attended engine cursor (sent :: others) (.cursor engine :: (work ++ events)) after
  | kept {cursor after : Option CursorState} {sent : Dispatched} {others : List Dispatched}
      {work events : List Event} (has : lacksCursor engine cursor = false) (works : IsWork work)
      (rest : Attended engine cursor others events after) :
      Attended engine cursor (sent :: others) (work ++ events) after

/-! ## Moments -/

section Moments

variable {engine : Engine} {cursor after : Option CursorState} {events : List Event}

theorem cursorAfter_append (first rest : List Moment) :
    cursorAfter cursor (first ++ rest) = cursorAfter (cursorAfter cursor first) rest :=
  List.foldl_append

/-- There is a newest cursor if there was one before, or one has been made. -/
theorem isSome_cursorAfter (moments : List Moment) :
    (cursorAfter cursor moments).isSome = (cursor.isSome || moments.any Moment.makesCursor) := by
  induction moments generalizing cursor with
  | nil => simp [cursorAfter]
  | cons moment rest ih =>
      have here : (moment.cursorAfter cursor).isSome = (cursor.isSome || moment.makesCursor) := by
        cases moment with
        | expiry => simp [Moment.cursorAfter, Moment.makesCursor]
        | event happened =>
            rw [Moment.cursorAfter, Moment.makesCursor]
            cases happened.makesCursor with
            | true => simp
            | false => simp
      rw [cursorAfter, List.foldl_cons, List.any_cons, ← Bool.or_assoc, ← here]
      exact ih

theorem isSome_cursorAfter_none (moments : List Moment) :
    (cursorAfter none moments).isSome = moments.any Moment.makesCursor := by
  rw [isSome_cursorAfter, Option.isSome_none, Bool.false_or]

theorem disciplined_append (first rest : List Moment) :
    Disciplined engine cursor (first ++ rest) ↔
      Disciplined engine cursor first ∧ Disciplined engine (cursorAfter cursor first) rest := by
  induction first generalizing cursor with
  | nil => exact (and_iff_right trivial).symm
  | cons moment first ih =>
      rw [List.cons_append, Disciplined, Disciplined, ih, and_assoc]
      rfl

/-- What is disciplined is so at each of its moments. -/
theorem Disciplined.allowed {before rest : List Moment} {moment : Moment}
    (disciplined : Disciplined engine cursor (before ++ moment :: rest)) :
    moment.Allowed engine (cursorAfter cursor before) :=
  ((disciplined_append _ _).1 disciplined).2.1

/-- A cursor is used only after one has been made, and, for PostgreSQL, only if the newest has not
expired. -/
theorem Disciplined.used {before rest : List Moment} {event : Event}
    (disciplined : Disciplined engine none (before ++ .event event :: rest))
    (uses : event.usesCursor = true) :
    before.any Moment.makesCursor = true ∧
      (engine = .postgres → cursorAfter none before = some .usable) := by
  have has := disciplined.allowed.2 uses
  have there := isSome_cursorAfter_none before
  cases newest : cursorAfter none before with
  | none =>
      rw [newest] at has
      cases has
  | some state =>
      rw [newest] at there has
      refine ⟨there.symm, ?_⟩
      rintro rfl
      cases state with
      | usable => rfl
      | expired => cases has

/-- Without PostgreSQL, no cursor is made any more once there is one. -/
theorem Disciplined.makes_none (other : engine ≠ .postgres) {moments : List Moment}
    (disciplined : Disciplined engine cursor moments) (there : cursor.isSome = true) :
    ∀ moment ∈ moments, moment.makesCursor = false := by
  induction moments generalizing cursor with
  | nil =>
      intro moment member
      cases member
  | cons first rest ih =>
      obtain ⟨allowed, others⟩ := disciplined
      have has : lacksCursor engine cursor = false := by
        obtain ⟨state, rfl⟩ := Option.isSome_iff_exists.1 there
        cases state with
        | usable => rfl
        | expired => simpa [lacksCursor] using other
      have here : first.makesCursor = false := by
        cases first with
        | expiry => rfl
        | event happened =>
            rw [Bool.eq_false_iff]
            intro makes
            rw [allowed.1 makes] at has
            cases has
      have still : (first.cursorAfter cursor).isSome = true := by
        have kept := @isSome_cursorAfter cursor [first]
        rw [there, Bool.true_or] at kept
        exact kept
      intro moment member
      rcases List.mem_cons.1 member with rfl | later
      · exact here
      · exact ih others still moment later

/-- Without PostgreSQL, at most one cursor is made. -/
theorem Disciplined.makes_one (other : engine ≠ .postgres) {moments : List Moment}
    (disciplined : Disciplined engine cursor moments) :
    moments.countP Moment.makesCursor ≤ 1 := by
  induction moments generalizing cursor with
  | nil => exact Nat.zero_le 1
  | cons moment rest ih =>
      obtain ⟨-, others⟩ := disciplined
      rw [List.countP_cons]
      by_cases makes : moment.makesCursor = true
      · have there : (moment.cursorAfter cursor).isSome = true := by
          have made := @isSome_cursorAfter cursor [moment]
          rw [List.any_cons, makes, Bool.true_or, Bool.or_true] at made
          exact made
        have none : rest.countP Moment.makesCursor = 0 := by
          rw [List.countP_eq_zero]
          intro later member
          simp [others.makes_none other there later member]
        rw [if_pos makes]
        omega
      · rw [if_neg makes]
        exact ih others

/-- Events that make no cursor leave the newest as it is, and are disciplined if they use none that
is lacking. -/
theorem disciplined_of_makes_none (none : ∀ event ∈ events, event.makesCursor = false)
    (has : ∀ event ∈ events, event.usesCursor = true → lacksCursor engine cursor = false) :
    Disciplined engine cursor (events.map .event) ∧
      cursorAfter cursor (events.map .event) = cursor := by
  induction events with
  | nil => exact ⟨trivial, rfl⟩
  | cons event events ih =>
      have makes := none event List.mem_cons_self
      have here : (Moment.event event).cursorAfter cursor = cursor := by
        rw [Moment.cursorAfter, makes]
        rfl
      have allowed : (Moment.event event).Allowed engine cursor := by
        refine ⟨?_, has event List.mem_cons_self⟩
        rw [makes]
        intro impossible
        cases impossible
      obtain ⟨disciplined, same⟩ := ih
        (fun other member => none other (List.mem_cons_of_mem event member))
        (fun other member => has other (List.mem_cons_of_mem event member))
      rw [List.map_cons, Disciplined, cursorAfter, List.foldl_cons, here]
      exact ⟨⟨allowed, disciplined⟩, same⟩

/-- Events without statements have nothing to do with cursors. -/
theorem disciplined_of_untold (untold : ∀ event ∈ events, event.isStatementTraffic = false) :
    Disciplined engine cursor (events.map .event) ∧
      cursorAfter cursor (events.map .event) = cursor := by
  apply disciplined_of_makes_none
  · intro event member
    have told := untold event member
    cases event with
    | cursor engine => cases told
    | _ => rfl
  · intro event member uses
    have told := untold event member
    rw [Event.isStatementTraffic_of_usesCursor uses] at told
    cases told

/-- Work is allowed on a cursor that is not lacking. -/
theorem IsWork.disciplined (works : IsWork events) (has : lacksCursor engine cursor = false) :
    Disciplined engine cursor (events.map .event) ∧
      cursorAfter cursor (events.map .event) = cursor := by
  apply disciplined_of_makes_none
  · intro event member
    have uses := works.usesCursor event member
    cases event with
    | cursor engine => cases uses
    | _ => rfl
  · intro event member uses
    exact has

/-- **Attended statements are disciplined**, and leave the newest cursor of what has happened. -/
theorem Attended.disciplined {sent : List Dispatched}
    (attended : Attended engine cursor sent events after) :
    Disciplined engine cursor (events.map .event) ∧
      cursorAfter cursor (events.map .event) = after := by
  induction attended with
  | idle cursor => exact ⟨trivial, rfl⟩
  | @made cursor after sent others work events lacks works rest ih =>
      have usable : lacksCursor engine (some .usable) = false := rfl
      obtain ⟨working, same⟩ := works.disciplined usable
      have allowed : (Moment.event (.cursor engine)).Allowed engine cursor := by
        refine ⟨fun _ => lacks, ?_⟩
        intro impossible
        cases impossible
      have later : Disciplined engine (some .usable) ((work ++ events).map .event) ∧
          cursorAfter (some .usable) ((work ++ events).map .event) = after := by
        rw [List.map_append, disciplined_append, cursorAfter_append, same]
        exact ⟨⟨working, ih.1⟩, ih.2⟩
      exact ⟨⟨allowed, later.1⟩, later.2⟩
  | kept has works rest ih =>
      obtain ⟨working, same⟩ := works.disciplined has
      rw [List.map_append, disciplined_append, cursorAfter_append, same]
      exact ⟨⟨working, ih.1⟩, ih.2⟩

end Moments

/-! ## Queries -/

/-- Executions, if there are any, are work. -/
theorem Conducted.isWork {engine : Engine} {executions : List Execution}
    {before after : List CursorReply} {events : List Event} {fault : Option AdapterError}
    (conducted : Conducted engine executions before events fault after) (some : executions ≠ []) :
    IsWork events := by
  have uses : ∀ event ∈ events, event.usesCursor = true := fun _ => conducted.usesCursor
  cases conducted with
  | done replies => exact absurd rfl some
  | accepted fine others =>
      exact ⟨_, _, _, rfl, fun event member => uses event (List.mem_cons_of_mem _ member)⟩
  | failed here =>
      exact ⟨_, _, _, rfl, fun event member => uses event (List.mem_cons_of_mem _ member)⟩

namespace Adapter

theorem executions_ne_nil (adapter : Adapter) (sql : String) (values : Option (List Value)) :
    adapter.executions sql values ≠ [] := by
  unfold executions
  split
  · exact List.cons_ne_nil _ _
  · exact List.cons_ne_nil _ _
  · split
    · exact List.cons_ne_nil _ _
    · exact List.cons_ne_nil _ _

theorem needsCursor_eq (adapter : Adapter) :
    adapter.needsCursor = lacksCursor adapter.engine adapter.cursor := by
  unfold needsCursor lacksCursor
  cases adapter.cursor with
  | none => rfl
  | some state => cases state <;> rfl

/-- A query is work on the newest cursor, or on one that it makes because there is none to use. -/
theorem query_works (sql : String) (values : Option (List Value)) (adapter : Adapter) :
    ∃ work, IsWork work ∧
      ((query sql values).run adapter).events = adapter.cursorEvents ++ work ∧
      ((query sql values).run adapter).state.cursor = adapter.ready.cursor := by
  obtain ⟨work, replies, seen, conducted, state⟩ := answer_conducted sql values adapter
  refine ⟨work, conducted.isWork (adapter.executions_ne_nil sql values), seen, ?_⟩
  show ((answer sql values).run adapter).state.cursor = _
  rw [state]

end Adapter

/-- **An adapter attends to the statements that it answers**, and keeps the newest cursor. -/
theorem Link.Answers.attended {link last : Link} {sent : List Dispatched} {events : List Event}
    (answers : Link.Answers link sent events last) {own : Adapter} (client : link = .adapter own) :
    ∃ later : Adapter, last = .adapter later ∧ later.engine = own.engine ∧
      Attended own.engine own.cursor sent events later.cursor := by
  induction answers generalizing own with
  | nothing link => exact ⟨own, client, rfl, .idle own.cursor⟩
  | @next link last sql values others events rest ih =>
      subst client
      obtain ⟨later, same, kind, attended⟩ := ih rfl
      obtain ⟨work, works, seen, cursor⟩ := Adapter.query_works sql values own
      rw [Adapter.query_engine sql values own] at kind attended
      rw [cursor] at attended
      refine ⟨later, same, kind, ?_⟩
      have here : ((Link.query sql values).run (.adapter own)).events = own.cursorEvents ++ work := seen
      rw [here, Adapter.cursorEvents]
      unfold Adapter.ready at attended
      rw [Adapter.needsCursor_eq] at attended ⊢
      by_cases lacks : lacksCursor own.engine own.cursor = true
      · rw [if_pos lacks] at attended ⊢
        rw [List.append_assoc, List.singleton_append]
        exact .made lacks works attended
      · rw [if_neg lacks] at attended ⊢
        exact .kept (by simpa using lacks) works attended

/-! ## Steps and runs -/

namespace Session

variable {engine : Engine} {cursor : Option CursorState} {session : Session}

/-- What reaches a connection in a step, or the end of its newest cursor from outside. -/
def stepMoments (now : Timestamp) (next : Step) (session : Session) : List Moment :=
  match next with
  | .operation _ | .close => reaching ((step now next).run session).events
  | .expireCursor => [.expiry]

/-- What reaches a connection over a run, and the ends of its cursors from outside. -/
def moments : List (Timestamp × Step) → Session → List Moment
  | [], _ => []
  | (now, next) :: rest, session =>
      stepMoments now next session ++ moments rest ((step now next).run session).state

/-- An open session over an adapter that has a newest cursor of this state. -/
structure Holding (engine : Engine) (cursor : Option CursorState) (session : Session) : Prop where
  opened : session.closed = false
  client : ∃ own : Adapter, session.link = .adapter own ∧ own.engine = engine ∧ own.cursor = cursor

/-- The statements of an operation are attended to, and the session holds the cursor that they
leave. -/
theorem Holding.attended (holding : session.Holding engine cursor) (now : Timestamp)
    (operation : Operation) :
    ∃ after,
      Attended engine cursor (stepDispatched now (.operation operation) session)
        (((step now (.operation operation)).run session).events.filter Event.isTraffic) after ∧
      ((step now (.operation operation)).run session).state.Holding engine after := by
  obtain ⟨own, client, rfl, rfl⟩ := holding.client
  have answers := answers_perform holding.opened (operation.script session.engine now)
  obtain ⟨later, same, kind, attended⟩ := answers.attended client
  have still : ((step now (.operation operation)).run session).state.closed = false := by
    rw [step_closed, holding.opened]
    rfl
  rw [run_step_operation] at still ⊢
  exact ⟨later.cursor, attended, still, later, same, kind, rfl⟩

/-- **A step but a close is disciplined**, and the session holds the newest cursor that it
leaves. -/
theorem step_holding (holding : session.Holding engine cursor) (now : Timestamp) {next : Step}
    (notClose : next ≠ .close) :
    Disciplined engine cursor (stepMoments now next session) ∧
      ((step now next).run session).state.Holding engine
        (cursorAfter cursor (stepMoments now next session)) := by
  cases next with
  | operation operation =>
      obtain ⟨after, attended, holds⟩ := holding.attended now operation
      obtain ⟨disciplined, left⟩ := attended.disciplined
      rw [stepMoments, reaching, left]
      exact ⟨disciplined, holds⟩
  | close => exact absurd rfl notClose
  | expireCursor =>
      obtain ⟨own, client, kind, rfl⟩ := holding.client
      refine ⟨⟨trivial, trivial⟩, holding.opened, own.expire, ?_, kind, rfl⟩
      rw [run_step_expireCursor, client]
      rfl

/-- Without a close, a run leaves a session that holds the newest cursor. -/
theorem runAll_holding (holding : session.Holding engine cursor) {steps : List (Timestamp × Step)}
    (notClosed : ∀ timed ∈ steps, timed.2 ≠ .close) :
    (runAll steps session).2.Holding engine (cursorAfter cursor (moments steps session)) := by
  induction steps generalizing cursor session with
  | nil => exact holding
  | cons head rest ih =>
      obtain ⟨now, next⟩ := head
      obtain ⟨-, still⟩ := step_holding holding now (notClosed _ List.mem_cons_self)
      rw [moments, cursorAfter_append]
      exact ih still fun timed member => notClosed timed (List.mem_cons_of_mem _ member)

/-- A closed session does nothing with cursors. -/
theorem moments_of_closed (closed : session.closed = true) (steps : List (Timestamp × Step)) :
    ∀ moment ∈ moments steps session, moment = .expiry := by
  induction steps generalizing session with
  | nil =>
      intro moment member
      cases member
  | cons head rest ih =>
      obtain ⟨now, next⟩ := head
      have still : ((step now next).run session).state.closed = true := by
        rw [step_closed, closed, Bool.true_or]
      have silent := traffic_eq_nil (step_silent closed now next)
      intro moment member
      rcases List.mem_append.1 member with here | later
      · cases next with
        | expireCursor => exact List.mem_singleton.1 here
        | operation operation =>
            rw [stepMoments, reaching, silent] at here
            cases here
        | close =>
            rw [stepMoments, reaching, silent] at here
            cases here
      · exact ih still moment later

/-- The ends of cursors from outside are allowed at any time. -/
theorem disciplined_of_expiries {moments : List Moment}
    (expiries : ∀ moment ∈ moments, moment = .expiry) :
    Disciplined engine cursor moments := by
  induction moments generalizing cursor with
  | nil => trivial
  | cons moment rest ih =>
      obtain rfl := expiries moment List.mem_cons_self
      exact ⟨trivial, ih fun other member => expiries other (List.mem_cons_of_mem _ member)⟩

/-- The first close of a session closes its newest cursor, if there is one that can be closed, and
then the connection, and no cursor is made after it. -/
theorem Holding.close (holding : session.Holding engine cursor)
    (closes : session.closing.cursorError = none) (now : Timestamp)
    (rest : List (Timestamp × Step)) :
    ((step now .close).run session).events
        = (if cursor.isSome then [.cursorClose] else []) ++ [.close] ∧
      ∀ moment ∈ moments rest ((step now .close).run session).state,
        moment.makesCursor = false := by
  obtain ⟨own, client, -, rfl⟩ := holding.client
  have closed : ((step now .close).run session).state.closed = true := by
    rw [step_closed, Step.isClose, Bool.or_true]
  constructor
  · rw [run_step_close, run_close_of_open holding.opened, client]
    show ((Adapter.close session.closing).run own).events = _
    cases there : own.cursor with
    | none => rw [Adapter.run_close_without_cursor there]; rfl
    | some state => rw [Adapter.run_close_with_cursor there, closes]; rfl
  · intro moment member
    rw [moments_of_closed closed rest moment member]
    rfl

/-- **Over every run, closes or not, what happens is disciplined.** -/
theorem moments_disciplined (holding : session.Holding engine cursor)
    (steps : List (Timestamp × Step)) : Disciplined engine cursor (moments steps session) := by
  induction steps generalizing cursor session with
  | nil => trivial
  | cons head rest ih =>
      obtain ⟨now, next⟩ := head
      rw [moments, disciplined_append]
      by_cases close : next = .close
      · subst close
        obtain ⟨own, client, -, -⟩ := holding.client
        have closed : ((step now .close).run session).state.closed = true := by
          rw [step_closed, Step.isClose, Bool.or_true]
        refine ⟨?_, disciplined_of_expiries (moments_of_closed closed rest)⟩
        apply (disciplined_of_untold _).1
        intro event member
        rw [run_step_close, run_close_of_open holding.opened, client] at member
        rcases Adapter.mem_close (List.mem_filter.1 member).1 with rfl | rfl
        · rfl
        · rfl
      · obtain ⟨disciplined, still⟩ := step_holding holding now close
        exact ⟨disciplined, ih still⟩

/-- Events without statements before a run change nothing about its cursors. -/
theorem history_disciplined {opening : List Event}
    (untold : ∀ event ∈ opening, event.isStatementTraffic = false)
    (holding : session.Holding engine cursor) (steps : List (Timestamp × Step)) :
    Disciplined engine cursor (reaching opening ++ moments steps session) ∧
      cursorAfter cursor (reaching opening ++ moments steps session)
        = cursorAfter cursor (moments steps session) := by
  obtain ⟨disciplined, same⟩ := @disciplined_of_untold engine cursor (opening.filter Event.isTraffic)
    fun event member => untold event (List.mem_filter.1 member).1
  rw [disciplined_append, cursorAfter_append, reaching, same]
  exact ⟨⟨disciplined, moments_disciplined holding steps⟩, rfl⟩

end Session

/-! ## Connecting -/

namespace Connect

variable {surroundings : Surroundings} {config : Config}

/-- Nothing is handed to a connection or read from it. -/
def Untold : Act.Rule Failure Unit Event := fun _ events _ _ =>
  ∀ event ∈ events, event.isStatementTraffic = false

theorem untold_note (logging : Logging) (n : Note) :
    ∀ event ∈ logging.note n, event.isStatementTraffic = false := by
  intro event member
  have quiet := logging.note_isTraffic n event member
  cases event with
  | note n => rfl
  | statement sql => rfl
  | parameters values => rfl
  | _ => cases quiet

/-- Opening a connection, setting it up and closing it are no statements. -/
theorem untold_accepted (logging : Logging) : Accepts logging Untold where
  sequential :=
    { still := fun _ _ => List.forall_mem_nil _
      append := by
        intro before middle after first rest failure? head tail
        exact List.forall_mem_append.2 ⟨head, tail⟩ }
  notes _ := untold_note logging _
  asks _ _ := List.forall_mem_singleton.2 rfl
  configures _ := List.forall_mem_singleton.2 rfl
  rejects _ := List.forall_mem_singleton.2 rfl

/-- Connecting hands no statement to a connection and reads nothing from it. -/
theorem connect_untold (surroundings : Surroundings) (logging : Logging) (source : Source) :
    ∀ event ∈ ((connect surroundings logging source).run ()).events,
      event.isStatementTraffic = false :=
  (untold_accepted logging).connect surroundings source ()

/-- A connection of the engine's own client library has no cursor yet. -/
theorem initial_holding (logging : Logging) (adapted : Adapted surroundings config) :
    (initial surroundings logging config).Holding config.engine none where
  opened := rfl
  client := ⟨_, initial_link_adapted logging adapted, rfl, rfl⟩

end Connect

namespace Session

/-- **A cursor is made when one is lacking.**  Over every run of a session over a connection of the
engine's own client library, opened or carried, whatever the client library answers and whenever
cursors expire: nothing is executed or fetched before a cursor has been made, nor, for PostgreSQL,
on one that has expired, and no cursor is made while there is one to use; without PostgreSQL at most
one is made; every statement that an operation hands on has a cursor made for it if one is lacking
and else uses the newest, which the session keeps whether or not the statement fails; and the first
close, if a cursor can be closed, closes the newest if there is one, then the connection, and none
is made after it. -/
theorem cursor_is_made_when_lacking {surroundings : Surroundings} {logging : Logging}
    {source : Source} {config : Config} {session : Session}
    (read : Connect.readSource source = .ok config)
    (adapted : Connect.Adapted surroundings config)
    (opened : ((Connect.connect surroundings logging source).run ()).result = .ok session)
    (steps : List (Timestamp × Step)) :
    let history := reaching ((Connect.connect surroundings logging source).run ()).events
      ++ moments steps session
    let before := (runAll steps session).2
    (∀ earlier event later, history = earlier ++ .event event :: later →
      (event.usesCursor = true → earlier.any Moment.makesCursor = true ∧
        (config.engine = .postgres → cursorAfter none earlier = some .usable)) ∧
      (event.makesCursor = true →
        lacksCursor config.engine (cursorAfter none earlier) = true)) ∧
    (config.engine ≠ .postgres → history.countP Moment.makesCursor ≤ 1) ∧
    ((∀ timed ∈ steps, timed.2 ≠ .close) →
      before.Holding config.engine (cursorAfter none history) ∧
      (∀ now operation, ∃ after,
        Attended config.engine (cursorAfter none history)
          (stepDispatched now (.operation operation) before)
          (((step now (.operation operation)).run before).events.filter Event.isTraffic) after ∧
        ((step now (.operation operation)).run before).state.Holding config.engine after) ∧
      (surroundings.closing.cursorError = none → ∀ now rest,
        ((step now .close).run before).events
          = (if history.any Moment.makesCursor then [.cursorClose] else []) ++ [.close] ∧
        ∀ moment ∈ moments rest ((step now .close).run before).state,
          moment.makesCursor = false)) := by
  obtain ⟨found, same, rfl⟩ := Connect.connect_eq_ok opened
  obtain rfl : config = found := by rw [read] at same; cases same; rfl
  have holding := Connect.initial_holding logging adapted
  have untold := Connect.connect_untold surroundings logging source
  obtain ⟨disciplined, newest⟩ := history_disciplined untold holding steps
  intro history before
  refine ⟨?_, disciplined.makes_one, ?_⟩
  · intro earlier event later split
    have whole : Disciplined config.engine none history := disciplined
    rw [split] at whole
    exact ⟨whole.used, whole.allowed.1⟩
  · intro notClosed
    have holds : before.Holding config.engine (cursorAfter none history) := by
      show Holding _ (cursorAfter none (_ ++ _)) _
      rw [newest]
      exact runAll_holding holding notClosed
    refine ⟨holds, holds.attended, ?_⟩
    intro closes now rest
    have closing : before.closing.cursorError = none := by
      show (runAll steps (Connect.initial surroundings logging config)).2.closing.cursorError = none
      rw [runAll_closed]
      exact closes
    rw [← isSome_cursorAfter_none]
    exact holds.close closing now rest

/-- A client library that refuses the first execution. -/
def firstRefused : Surroundings :=
  { Connect.quietSurroundings with cursorReplies := [.refusal ⟨"no such table", .text "42P01"⟩] }

/-- A statement before the end of a cursor, and one after it. -/
def expiringSteps : List (Timestamp × Step) :=
  let now := ⟨2024, 1, 2, 3, 4, 5, 6⟩
  [(now, .operation (.run (.text "select * from [t]") .null)), (now, .expireCursor),
    (now, .operation (.run (.text "select ?") (.list [.int 1])))]

/-- A connection that is opened for the session, whose first cursor outlives a refusal and then
expires. -/
theorem cursor_is_made_when_lacking_expired :
    let config := Connect.plainConfig .postgres .null (.bool false)
    let session := Connect.initial firstRefused ⟨5, true⟩ config
    Connect.readSource (.config config) = .ok config ∧
      Connect.Adapted firstRefused config ∧
      ((Connect.connect firstRefused ⟨5, true⟩ (.config config)).run ()).result = .ok session ∧
      (∀ timed ∈ expiringSteps, timed.2 ≠ .close) ∧
      firstRefused.closing.cursorError = none ∧
      (runAll expiringSteps session).2.Holding .postgres (some .usable) ∧
      ((step ⟨2024, 1, 2, 3, 4, 5, 7⟩ .close).run (runAll expiringSteps session).2).events
        = [.cursorClose, .close] ∧
      ∀ moment ∈ moments expiringSteps
          ((step ⟨2024, 1, 2, 3, 4, 5, 7⟩ .close).run (runAll expiringSteps session).2).state,
        moment.makesCursor = false := by
  intro config session
  have opened : ((Connect.connect firstRefused ⟨5, true⟩ (.config config)).run ()).result
      = .ok session := rfl
  have adapted : Connect.Adapted firstRefused config := .inl rfl
  have notClosed : ∀ timed ∈ expiringSteps, timed.2 ≠ .close := by
    simp [expiringSteps]
  obtain ⟨-, -, whole⟩ := cursor_is_made_when_lacking rfl adapted opened expiringSteps
  obtain ⟨holds, -, closing⟩ := whole notClosed
  obtain ⟨ends, quiet⟩ := closing rfl ⟨2024, 1, 2, 3, 4, 5, 7⟩ expiringSteps
  have newest : cursorAfter none
      (reaching ((Connect.connect firstRefused ⟨5, true⟩ (.config config)).run ()).events
        ++ moments expiringSteps session) = some .usable := by
    decide +kernel
  have made : (reaching ((Connect.connect firstRefused ⟨5, true⟩ (.config config)).run ()).events
        ++ moments expiringSteps session).any Moment.makesCursor = true := by
    decide +kernel
  rw [newest] at holds
  rw [made] at ends
  exact ⟨rfl, adapted, opened, notClosed, rfl, holds, ends, quiet⟩

end Session

end SchemaChange
