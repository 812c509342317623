/-
# SchemaChange.Script — what an operation asks of its gateway

An operation never touches a connection.  It is a script of requests to the
gateway that owns one: notes for the log, statements to submit, queries whose rows
it wants, and the question whether this is a dry run.  What the gateway answers
decides how the script goes on; a failed request ends it.

`Script.bind` puts one script after another, and obeys the laws of a monad.  A
statement about all operations is one induction over scripts.
-/
import SchemaChange.Noted
import SchemaChange.Statement.Rows

set_option autoImplicit false

namespace SchemaChange

open SchemaChange.Statement (Row)

/-- A script that ends with an answer or a failure. -/
inductive Script (α : Type) where
  | done (outcome : Attempt α)
  /-- leaves a note -/
  | note (note : Note) (next : Script α)
  /-- submits a statement template with parameters and goes on with the native result -/
  | submit (template params : Value) (next : Value → Script α)
  /-- submits a query and goes on with its rows -/
  | fetch (template params : Value) (next : List Row → Script α)
  /-- asks whether statements are only logged -/
  | askDryRun (next : Bool → Script α)

namespace Script

variable {α β γ : Type}

/-- One script after another. -/
def bind : Script α → (α → Script β) → Script β
  | .done (.ok a), next => next a
  | .done (.error failure), _ => .done (.error failure)
  | .note n rest, next => .note n (rest.bind next)
  | .submit template params rest, next => .submit template params fun v => (rest v).bind next
  | .fetch template params rest, next => .fetch template params fun rows => (rest rows).bind next
  | .askDryRun rest, next => .askDryRun fun dry => (rest dry).bind next

instance : Monad Script where
  pure a := .done (.ok a)
  bind := bind

/-- The script that leaves notes one after the other. -/
def notes : List Note → Script α → Script α
  | [], next => next
  | n :: rest, next => .note n (notes rest next)

/-- The script of a noted attempt. -/
def ofNoted (noted : Noted α) : Script α :=
  notes noted.notes (.done noted.result)

instance : MonadLift (Except Failure) Script where
  monadLift attempt := .done attempt

instance : MonadLift Noted Script where
  monadLift := ofNoted

/-- Leaves a note for those who follow the work in detail. -/
def debug (text : String) : Script Unit :=
  .note ⟨.debug, text⟩ (pure ())

/-- Submits a statement template without parameters. -/
def run (template : String) : Script Value :=
  .submit (.text template) .null pure

/-- Submits a statement template with parameters. -/
def runWith (template : String) (params : List Value) : Script Value :=
  .submit (.text template) (.list params) pure

/-- Submits a query template without parameters. -/
def query (template : String) : Script (List Row) :=
  .fetch (.text template) .null pure

/-- Submits a query template with parameters. -/
def queryWith (template : String) (params : List Value) : Script (List Row) :=
  .fetch (.text template) (.list params) pure

/-- Whether statements are only logged. -/
def isDryRun : Script Bool :=
  .askDryRun pure

theorem bind_pure (script : Script α) : bind script pure = script := by
  induction script with
  | done outcome => cases outcome <;> rfl
  | note n rest ih => simp only [bind, ih]
  | submit template params rest ih => simp only [bind, ih]
  | fetch template params rest ih => simp only [bind, ih]
  | askDryRun rest ih => simp only [bind, ih]

theorem bind_assoc (script : Script α) (first : α → Script β) (second : β → Script γ) :
    bind (bind script first) second = bind script fun a => bind (first a) second := by
  induction script with
  | done outcome => cases outcome <;> rfl
  | note n rest ih => simp only [bind, ih]
  | submit template params rest ih => simp only [bind, ih]
  | fetch template params rest ih => simp only [bind, ih]
  | askDryRun rest ih => simp only [bind, ih]

instance : LawfulMonad Script :=
  .mk' Script bind_pure (fun _ _ => rfl) bind_assoc

end Script

end SchemaChange
