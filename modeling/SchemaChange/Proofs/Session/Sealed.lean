/-
# SchemaChange.Proofs.Session.Sealed — sessions through which no statement gets

A session is sealed if it is a dry run or if its connection has been closed.  A
request to a sealed session is logged and then answered or refused without the
connection, so that every script leaves a sealed session as it is and causes no
traffic (`perform_sealed`).
-/
import SchemaChange.Proofs.Session.Run

set_option autoImplicit false

namespace SchemaChange.Session

variable {α : Type} {session : Session}

/-- No statement gets to the connection. -/
def Sealed (session : Session) : Prop :=
  session.dryRun.truthy = true ∨ session.closed = true

/-- What happens leaves a sealed session as it is and does not reach the connection. -/
def Contained : Act.Rule Failure Session Event := fun before events _ after =>
  before.Sealed → after = before ∧ ∀ event ∈ events, event.isTraffic = false

theorem contained_sequential : Contained.Sequential where
  still session _ _ := ⟨rfl, by simp⟩
  append := by
    intro before middle after first rest _ head tail isSealed
    obtain ⟨rfl, quiet⟩ := head isSealed
    obtain ⟨same, quietRest⟩ := tail isSealed
    refine ⟨same, fun event member => ?_⟩
    rcases List.mem_append.1 member with member | member
    · exact quiet event member
    · exact quietRest event member

theorem note_contained (n : Note) : (note n).Follows Contained :=
  fun session _ => ⟨rfl, session.logging.note_isTraffic n⟩

theorem handle_sealed (isSealed : session.Sealed) (sql : String) (values : Option (List Value)) :
    (session.handle sql values).state = session ∧ (session.handle sql values).events = [] := by
  cases dry : session.dryRun.truthy with
  | true =>
      rw [handle_dry dry]
      exact ⟨rfl, rfl⟩
  | false =>
      rw [handle_closed dry (isSealed.resolve_left (by simp [dry]))]
      exact ⟨rfl, rfl⟩

theorem submit_contained (template params : Value) : (submit template params).Follows Contained := by
  intro session isSealed
  rcases submit_cases template params session with
    ⟨failure, -, run⟩ | ⟨sql, failure, -, -, run⟩ | ⟨sql, values, -, -, run⟩
  · rw [run]
    exact ⟨rfl, by simp⟩
  · rw [run]
    exact ⟨rfl, session.logging.record_isTraffic sql none⟩
  · obtain ⟨same, silent⟩ := handle_sealed isSealed sql values
    rw [run, same, silent, List.append_nil]
    exact ⟨rfl, session.logging.record_isTraffic sql values⟩

/-- **Nothing that a script asks for gets out of a sealed session.** -/
theorem perform_sealed (isSealed : session.Sealed) (script : Script α) :
    ((perform script).run session).state = session ∧
      ∀ event ∈ ((perform script).run session).events, event.isTraffic = false :=
  perform_follows contained_sequential note_contained submit_contained script session isSealed

end SchemaChange.Session
