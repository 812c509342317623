/-
# SchemaChange.Noted — attempts that leave notes

Reading a description or rendering a fragment may leave notes for the log, whether
it then succeeds or fails.  `Noted` keeps the notes in order beside the attempt.
`result_bind` says that the results of a sequence do not depend on its notes, and
`notes_bind_ok` that the notes of its parts follow one another.
-/
import SchemaChange.Failure

set_option autoImplicit false

namespace SchemaChange

/-- The weight of a note. -/
inductive Level where
  | debug
  | info
  | warning
  deriving DecidableEq, Repr

/-- A message for the log. -/
structure Note where
  level : Level
  text : String
  deriving DecidableEq, Repr

/-- An attempt with the notes that it left. -/
structure Noted (α : Type) where
  notes : List Note
  result : Attempt α

namespace Noted

variable {α β : Type}

/-- The attempt without notes. -/
def ofAttempt (attempt : Attempt α) : Noted α :=
  ⟨[], attempt⟩

/-- A single note. -/
def note (level : Level) (text : String) : Noted Unit :=
  ⟨[⟨level, text⟩], .ok ()⟩

/-- One attempt after another; a failure ends the sequence and keeps the notes before it. -/
def bind (first : Noted α) (next : α → Noted β) : Noted β :=
  match first.result with
  | .ok a => ⟨first.notes ++ (next a).notes, (next a).result⟩
  | .error failure => ⟨first.notes, .error failure⟩

instance : Monad Noted where
  pure a := ofAttempt (.ok a)
  bind := bind

instance : MonadLift (Except Failure) Noted where
  monadLift := ofAttempt

/-- A noted attempt whose argument faults are turned into other failures. -/
def explaining (explain : Failure → Failure) (noted : Noted α) : Noted α :=
  ⟨noted.notes, noted.result.explaining explain⟩

@[simp] theorem result_pure (a : α) : (pure a : Noted α).result = .ok a := rfl

@[simp] theorem notes_pure (a : α) : (pure a : Noted α).notes = [] := rfl

@[simp] theorem result_ofAttempt (attempt : Attempt α) : (ofAttempt attempt).result = attempt := rfl

@[simp] theorem result_bind (first : Noted α) (next : α → Noted β) :
    (first >>= next).result = first.result.bind fun a => (next a).result := by
  obtain ⟨notes, result⟩ := first
  cases result <;> rfl

theorem notes_bind_ok {first : Noted α} {a : α} (h : first.result = .ok a) (next : α → Noted β) :
    (first >>= next).notes = first.notes ++ (next a).notes := by
  obtain ⟨notes, result⟩ := first
  cases h
  rfl

/-- A sequence that succeeded went through a result of its first part. -/
theorem result_bind_eq_ok {first : Noted α} {next : α → Noted β} {b : β}
    (h : (first >>= next).result = .ok b) :
    ∃ a, first.result = .ok a ∧ (next a).result = .ok b := by
  rw [result_bind] at h
  cases result : first.result with
  | ok a =>
    rw [result] at h
    exact ⟨a, rfl, h⟩
  | error failure =>
    rw [result] at h
    cases h

end Noted

end SchemaChange
