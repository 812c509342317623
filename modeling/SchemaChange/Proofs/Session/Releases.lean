/-
# SchemaChange.Proofs.Session.Releases — which prepared statements stay behind on a connection

PostgreSQL's adapter releases a prepared statement with the last of three commands, and gives a
command only after those before it are accepted.  So a statement whose execution or whose rows are
refused is not released, by its own operation or by a later one, since no later exchange has its
number.

* `Conducted.refused` — all that is executed is accepted but for what fails.
* `Exchange.course` — the four courses of an exchange with a number.
* `Conversation.mem_settled` — the statements that the exchanges of a conversation leave
  prepared are those that fail after the server has prepared them.
* `prepared_statements_are_released_iff_executed` — so over every run a prepared statement is
  released if and only if its execution and its rows are accepted.
-/
import SchemaChange.Proofs.Session.PreparedStatements

set_option autoImplicit false

namespace SchemaChange

/-! ## What is accepted -/

/-- Executions that fail are accepted up to the one whose answer means the fault, which is the last
that is executed. -/
theorem Conducted.refused {engine : Engine} {executions : List Execution}
    {before after : List CursorReply} {events : List Event} {error : AdapterError}
    (conducted : Conducted engine executions before events (some error) after) :
    ∃ fine failing others earlier middle, executions = fine ++ failing :: others ∧
      Conducted engine fine before earlier none middle ∧
      failing.fault? engine (CursorReply.next middle).1 = some error ∧
      executed events = fine.map Execution.handed ++ [failing.handed] := by
  generalize ended : some error = fault at conducted
  induction conducted with
  | done replies => cases ended
  | @accepted execution rest replies after events fault fine others ih =>
      subst ended
      obtain ⟨passed, failing, unused, earlier, middle, rfl, going, here, handed⟩ := ih rfl
      refine ⟨execution :: passed, failing, unused, _, middle, rfl, .accepted fine going, here, ?_⟩
      rw [executed_append, Execution.executed_events, handed]
      rfl
  | @failed execution rest replies fault here =>
      obtain rfl := Option.some.inj ended
      exact ⟨[], execution, rest, [], replies, rfl, .done replies, here,
        Execution.executed_events _ _⟩

namespace Exchange

/-- What the server accepts in an exchange: all that is executed but the last, if a fault ends it. -/
def accepted (exchange : Exchange) : List (String × Option (List Value)) :=
  match exchange.fault with
  | none => executed exchange.events
  | some _ => (executed exchange.events).dropLast

/-- The command that prepares the statement of an exchange under a number. -/
def preparing (exchange : Exchange) (number : Nat) : String × Option (List Value) :=
  (Adapter.prepareCommand (Adapter.statementName number) exchange.sent.sql, none)

/-- The command that executes it with its values. -/
def executing (exchange : Exchange) (number : Nat) : String × Option (List Value) :=
  let values := exchange.sent.values.getD []
  (Adapter.executeCommand (Adapter.statementName number) values.length, some values)

/-- The command that releases it. -/
def releasing (number : Nat) : String × Option (List Value) :=
  (Adapter.releaseCommand (Adapter.statementName number), none)

/-- The three commands start with different letters. -/
theorem commands_apart (exchange : Exchange) (number : Nat) :
    (exchange.executing number).1 ≠ (exchange.preparing number).1 ∧
      (releasing number).1 ≠ (exchange.preparing number).1 ∧
      (releasing number).1 ≠ (exchange.executing number).1 := by
  have letters : (exchange.preparing number).1.toList.head? = some 'P' ∧
      (exchange.executing number).1.toList.head? = some 'E' ∧
      (releasing number).1.toList.head? = some 'D' := by
    simp [preparing, executing, releasing, Adapter.prepareCommand, Adapter.executeCommand,
      Adapter.releaseCommand]
  obtain ⟨prepare, execute, release⟩ := letters
  refine ⟨fun same => ?_, fun same => ?_, fun same => ?_⟩
  · rw [same, prepare] at execute
    cases execute
  · rw [same, prepare] at release
    cases release
  · rw [same, execute] at release
    cases release

/-- The courses of an exchange with a number: what is executed, what the server accepts of it, and
whether it fails. -/
inductive Course (exchange : Exchange) (number : Nat) : Prop
  | unprepared (failed : exchange.fault ≠ none)
      (handed : executed exchange.events = [exchange.preparing number])
      (taken : exchange.accepted = [])
  | abandoned (failed : exchange.fault ≠ none)
      (handed : executed exchange.events = [exchange.preparing number, exchange.executing number])
      (taken : exchange.accepted = [exchange.preparing number])
  | unreleased (failed : exchange.fault ≠ none)
      (handed : executed exchange.events
        = [exchange.preparing number, exchange.executing number, releasing number])
      (taken : exchange.accepted = [exchange.preparing number, exchange.executing number])
  | released (fine : exchange.fault = none)
      (handed : executed exchange.events
        = [exchange.preparing number, exchange.executing number, releasing number])
      (taken : exchange.accepted
        = [exchange.preparing number, exchange.executing number, releasing number])

/-- **An exchange with a number goes on to its next command as long as the server accepts.** -/
theorem course {exchange : Exchange} {number : Nat} (numbered : exchange.number = some number)
    {before after : List CursorReply}
    (conducted : Conducted .postgres exchange.executions before exchange.events exchange.fault
      after) : exchange.Course number := by
  have commands : exchange.executions.map Execution.handed
      = [exchange.preparing number, exchange.executing number, releasing number] := by
    rw [executions, numbered]
    rfl
  cases ending : exchange.fault with
  | none =>
      have whole := conducted.executed_prefix.2.1 ending
      rw [commands] at whole
      have taken : exchange.accepted = executed exchange.events := by rw [accepted, ending]
      exact .released ending whole (taken.trans whole)
  | some error =>
      rw [ending] at conducted
      obtain ⟨fine, failing, others, -, -, split, -, -, handed⟩ := conducted.refused
      have taken : exchange.accepted = fine.map Execution.handed := by
        rw [accepted, ending, handed, List.dropLast_concat]
      have failed : exchange.fault ≠ none := by simp [ending]
      rw [split, List.map_append, List.map_cons] at commands
      generalize fine.map Execution.handed = passed at *
      -- the accepted commands are the first ones of the three, and the next one fails
      match passed with
      | [] =>
          simp only [List.nil_append, List.cons.injEq] at commands
          exact .unprepared failed (by rw [handed, commands.1]; rfl) taken
      | [first] =>
          simp only [List.cons_append, List.nil_append, List.cons.injEq] at commands
          obtain ⟨rfl, here, -⟩ := commands
          exact .abandoned failed (by rw [handed, here]; rfl) taken
      | [first, second] =>
          simp only [List.cons_append, List.nil_append, List.cons.injEq] at commands
          obtain ⟨rfl, rfl, here, -⟩ := commands
          exact .unreleased failed (by rw [handed, here]; rfl) taken
      | first :: second :: third :: more => simp at commands

/-- **A statement that is prepared is released if and only if its execution and its rows are
accepted.** -/
theorem Course.releases_iff {exchange : Exchange} {number : Nat} (course : exchange.Course number)
    (prepared : exchange.preparing number ∈ exchange.accepted) :
    releasing number ∈ executed exchange.events
      ↔ exchange.executing number ∈ exchange.accepted := by
  obtain ⟨execute, prepare, release⟩ := exchange.commands_apart number
  have executeNew : exchange.executing number ≠ exchange.preparing number := mt (congrArg _) execute
  have releaseNew : releasing number ≠ exchange.preparing number := mt (congrArg _) prepare
  have releaseLast : releasing number ≠ exchange.executing number := mt (congrArg _) release
  cases course with
  | unprepared failed handed taken =>
      rw [taken] at prepared
      cases prepared
  | abandoned failed handed taken => simp [handed, taken, executeNew, releaseNew, releaseLast]
  | unreleased failed handed taken => simp [handed, taken]
  | released fine handed taken => simp [handed, taken]

/-! ## What stays prepared -/

/-- What the server has prepared after it accepts a command of an exchange, of what it has before. -/
def serve (exchange : Exchange) (number : Nat) (held : List Nat)
    (command : String × Option (List Value)) : List Nat :=
  if command.1 = (exchange.preparing number).1 then held ++ [number]
  else if command.1 = (releasing number).1 then held.filter (· != number)
  else held

/-- What the server has prepared after an exchange.  What a statement without a number does is not
looked at. -/
def settle (held : List Nat) (exchange : Exchange) : List Nat :=
  match exchange.number with
  | none => held
  | some number => exchange.accepted.foldl (exchange.serve number) held

section Serve

variable {exchange : Exchange} {number : Nat} {held : List Nat}

theorem serve_preparing :
    exchange.serve number held (exchange.preparing number) = held ++ [number] := by
  rw [serve, if_pos rfl]

theorem serve_executing : exchange.serve number held (exchange.executing number) = held := by
  obtain ⟨prepare, -, release⟩ := exchange.commands_apart number
  rw [serve, if_neg prepare, if_neg (Ne.symm release)]

theorem serve_releasing (new : number ∉ held) :
    exchange.serve number (held ++ [number]) (releasing number) = held := by
  obtain ⟨-, prepare, -⟩ := exchange.commands_apart number
  rw [serve, if_neg prepare, if_pos rfl, List.filter_append]
  have all : held.filter (· != number) = held :=
    List.filter_eq_self.2 fun other member => by
      simpa using fun same : other = number => new (same ▸ member)
  simp [all]

end Serve

/-- An exchange fails after the server has prepared its statement under a number. -/
def Strands (exchange : Exchange) (number : Nat) : Prop :=
  exchange.number = some number ∧ exchange.preparing number ∈ exchange.accepted ∧
    exchange.fault ≠ none

/-- The server keeps the statement of an exchange that fails after it is prepared, and no other. -/
theorem Course.serve {exchange : Exchange} {number : Nat} {held : List Nat}
    (course : exchange.Course number) (new : number ∉ held) :
    (exchange.accepted.foldl (exchange.serve number) held = held ++ [number] ∧
        exchange.preparing number ∈ exchange.accepted ∧ exchange.fault ≠ none)
      ∨ (exchange.accepted.foldl (exchange.serve number) held = held ∧
        ¬ (exchange.preparing number ∈ exchange.accepted ∧ exchange.fault ≠ none)) := by
  cases course with
  | unprepared failed handed taken => simp [taken]
  | abandoned failed handed taken => simp [taken, serve_preparing, failed]
  | unreleased failed handed taken => simp [taken, serve_preparing, serve_executing, failed]
  | released fine handed taken =>
      simp [taken, serve_preparing, serve_executing, serve_releasing new, fine]

/-- **An exchange with a new number adds it to what is prepared if it fails after that**, and changes
nothing else. -/
theorem mem_settle {exchange : Exchange} {held : List Nat}
    (course : ∀ number, exchange.number = some number → exchange.Course number)
    (new : ∀ number, exchange.number = some number → number ∉ held) (other : Nat) :
    other ∈ exchange.settle held ↔ other ∈ held ∨ exchange.Strands other := by
  unfold settle Strands
  cases numbered : exchange.number with
  | none => simp
  | some number =>
      rcases (course number numbered).serve (new number numbered) with
        ⟨added, stranded⟩ | ⟨same, settled⟩
      · simp only [added, List.mem_append, List.mem_singleton, Option.some.injEq]
        refine or_congr_right ⟨?_, fun strands => strands.1.symm⟩
        rintro rfl
        exact ⟨rfl, stranded⟩
      · simp only [same, Option.some.injEq]
        refine ⟨.inl, ?_⟩
        rintro (member | ⟨rfl, strands⟩)
        · exact member
        · exact absurd strands settled

end Exchange

/-- The statements that exchanges leave prepared, one after the other. -/
def leftPrepared (exchanges : List Exchange) : List Nat :=
  exchanges.foldl Exchange.settle []

namespace Conversation

variable {number last : Nat} {before after : List CursorReply} {exchanges : List Exchange}

/-- The exchanges with a number of a conversation take one of the four courses. -/
theorem course (conversation : Conversation number before exchanges last after) :
    ∀ exchange ∈ exchanges, ∀ taken, exchange.number = some taken → exchange.Course taken := by
  induction conversation with
  | done number replies =>
      intro exchange member
      cases member
  | next numbered conducted answered others ih =>
      intro other member taken own
      rcases List.mem_cons.1 member with rfl | later
      · exact Exchange.course own conducted
      · exact ih other later taken own

/-- **The exchanges of a conversation leave those statements prepared that fail after the server has
prepared them**, besides what it has prepared before. -/
theorem mem_settled (conversation : Conversation number before exchanges last after)
    {held : List Nat} (earlier : ∀ taken ∈ held, taken < number) (other : Nat) :
    other ∈ exchanges.foldl Exchange.settle held
      ↔ other ∈ held ∨ ∃ exchange ∈ exchanges, exchange.Strands other := by
  induction conversation generalizing held with
  | done number replies => simp
  | @next number last replies middle after exchange rest numbered conducted answered others ih =>
      have taken : ∀ own, exchange.number = some own →
          own = number ∧ Adapter.prepares .postgres exchange.sent.values = true := by
        intro own same
        rw [numbered] at same
        split at same
        · rename_i prepares
          exact ⟨(Option.some.inj same).symm, prepares⟩
        · cases same
      have new : ∀ own, exchange.number = some own → own ∉ held := by
        intro own same member
        have le := earlier own member
        rw [(taken own same).1] at le
        exact Nat.lt_irrefl number le
      have settled := Exchange.mem_settle (fun own same => Exchange.course same conducted) new
      have below : ∀ own ∈ exchange.settle held,
          own < number + (Adapter.prepares .postgres exchange.sent.values).toNat := by
        intro own member
        rcases (settled own).1 member with here | strands
        · have := earlier own here
          omega
        · obtain ⟨rfl, prepares⟩ := taken own strands.1
          rw [prepares]
          exact Nat.lt_succ_self _
      rw [List.foldl_cons, ih below, settled]
      simp [or_assoc]

end Conversation

/-! ## Runs -/

namespace Session

/-- **Prepared statements are released if and only if they are executed.**  Over every run of a
session over PostgreSQL's adapter, with whatever answers and failures, the exchanges of a step are
all that it executes, and in an exchange whose statement the server prepares it is released if and
only if its execution and its rows are accepted.  So after the run the server has those statements
prepared whose exchange fails after that, and has none if no exchange does. -/
theorem prepared_statements_are_released_iff_executed {number : Nat} {replies : List CursorReply}
    {session : Session} (numbered : session.Numbered number replies)
    (steps : List (Timestamp × Step)) :
    ∃ (rounds : List (List Exchange)) (last : Nat) (after : List CursorReply),
      Conversation number replies rounds.flatten last after ∧
      rounds.flatten.map Exchange.sent = runDispatched (active steps) session ∧
      (runAll steps session).1.map (fun outcome => executed outcome.events)
        = (rounds.map fun round => round.flatMap fun exchange => executed exchange.events) ∧
      (∀ round ∈ rounds, ∀ exchange ∈ round, ∀ taken, exchange.number = some taken →
        exchange.preparing taken ∈ exchange.accepted →
          (Exchange.releasing taken ∈ executed exchange.events
            ↔ exchange.executing taken ∈ exchange.accepted)) ∧
      (∀ taken, taken ∈ leftPrepared rounds.flatten
        ↔ ∃ exchange ∈ rounds.flatten, exchange.Strands taken) ∧
      (leftPrepared rounds.flatten = [] ↔
        ∀ exchange ∈ rounds.flatten, ∀ taken, ¬ exchange.Strands taken) := by
  obtain ⟨rounds, last, after, conversation, all, handed⟩ := numbered.rounds steps
  have left (taken : Nat) : taken ∈ leftPrepared rounds.flatten
      ↔ ∃ exchange ∈ rounds.flatten, exchange.Strands taken := by
    have none : ∀ own ∈ ([] : List Nat), own < number := by simp
    rw [leftPrepared, conversation.mem_settled none]
    simp
  refine ⟨rounds, last, after, conversation, all, handed, ?_, left, ?_⟩
  · intro round inRun exchange inRound taken own prepared
    have member : exchange ∈ rounds.flatten := List.mem_flatten.2 ⟨round, inRun, inRound⟩
    exact (conversation.course exchange member taken own).releases_iff prepared
  · rw [List.eq_nil_iff_forall_not_mem]
    constructor
    · intro none exchange member taken strands
      exact none taken ((left taken).2 ⟨exchange, member, strands⟩)
    · intro none taken member
      obtain ⟨exchange, inRun, strands⟩ := (left taken).1 member
      exact none exchange inRun taken strands

theorem prepared_statements_are_released_iff_executed_refused :
    refusedSession.Numbered 1 secondRefused.cursorReplies ∧
      ∃ (rounds : List (List Exchange)) (last : Nat) (after : List CursorReply),
        Conversation 1 secondRefused.cursorReplies rounds.flatten last after ∧
        (rounds.map fun round => round.flatMap fun exchange => executed exchange.events) =
          [[("PREPARE dbmigrate_stmt_1 AS select 1 / $1", none),
              ("EXECUTE dbmigrate_stmt_1 (%s)", some [.int 0])],
            [],
            [("PREPARE dbmigrate_stmt_2 AS select 1 / $1", none),
              ("EXECUTE dbmigrate_stmt_2 (%s)", some [.int 1]),
              ("DEALLOCATE dbmigrate_stmt_2", none)]] ∧
        (∀ taken, taken ∈ leftPrepared rounds.flatten
          ↔ ∃ exchange ∈ rounds.flatten, exchange.Strands taken) := by
  have numbered : refusedSession.Numbered 1 secondRefused.cursorReplies :=
    Connect.initial_numbered _ rfl (.inr ⟨rfl, rfl⟩)
  obtain ⟨rounds, last, after, conversation, -, handed, -, left, -⟩ :=
    prepared_statements_are_released_iff_executed numbered dividingSteps
  exact ⟨numbered, rounds, last, after, conversation, handed.symm.trans rfl, left⟩

/-- A statement that the server prepares and does not execute is released neither by its own
operation nor over the rest of the run. -/
theorem failed_execution_leaves_statement :
    let operation : Operation := .run (.text "select 1 / ?") (.list [.int 0])
    let outcome := (step ⟨2024, 1, 2, 3, 4, 5, 6⟩ (.operation operation)).run refusedSession
    ∃ exchange : Exchange, Conversation 1 secondRefused.cursorReplies [exchange] 2 [] ∧
      executed outcome.events = executed exchange.events ∧
      exchange.preparing 1 = ("PREPARE dbmigrate_stmt_1 AS select 1 / $1", none) ∧
      exchange.preparing 1 ∈ exchange.accepted ∧
      ("DEALLOCATE dbmigrate_stmt_1", none) ∉ executed outcome.events ∧
      ("DEALLOCATE dbmigrate_stmt_1", none) ∉ executed (seen dividingSteps refusedSession) ∧
      leftPrepared [exchange] = [1] := by
  intro operation outcome
  let exchange : Exchange :=
    ⟨⟨"select 1 / $1", some [.int 0], .error (.report (Adapter.executionReport .postgres
        "select 1 / $1" ⟨"division by zero", .text "22012"⟩))⟩, some 1,
      [.execute "PREPARE dbmigrate_stmt_1 AS select 1 / $1" none,
        .execute "EXECUTE dbmigrate_stmt_1 (%s)" (some [.int 0])],
      some (.client ⟨"division by zero", .text "22012"⟩)⟩
  have conversation : Conversation 1 secondRefused.cursorReplies [exchange] 2 [] :=
    .next rfl (.accepted rfl (.failed rfl)) rfl (.done 2 [])
  have here : executed outcome.events = [("PREPARE dbmigrate_stmt_1 AS select 1 / $1", none),
      ("EXECUTE dbmigrate_stmt_1 (%s)", some [.int 0])] := rfl
  have all : executed (seen dividingSteps refusedSession) =
      [("PREPARE dbmigrate_stmt_1 AS select 1 / $1", none),
        ("EXECUTE dbmigrate_stmt_1 (%s)", some [.int 0]),
        ("PREPARE dbmigrate_stmt_2 AS select 1 / $1", none),
        ("EXECUTE dbmigrate_stmt_2 (%s)", some [.int 1]), ("DEALLOCATE dbmigrate_stmt_2", none)] :=
    rfl
  exact ⟨exchange, conversation, rfl, rfl, List.mem_cons_self, by simp [here], by simp [all], rfl⟩

end Session

end SchemaChange
