/-
# SchemaChange.Proofs.Act.Rule — rules that sequences inherit from their parts

A rule relates the state before an action, the events of the action, the failure
that ended it, if one did, and the state after it.  A rule is sequential if doing
nothing has it and if an action that succeeded may be continued by one that has it.

* `Follows.bind` — a sequence follows a sequential rule if its parts do.
* `Gives.bind` — what a sequence answers is what its last part answers.
-/
import SchemaChange.Act

set_option autoImplicit false

namespace SchemaChange.Act

/-- What is said about the state before an action, its events, its failure and the state after. -/
abbrev Rule (Error State Event : Type) : Type :=
  State → List Event → Option Error → State → Prop

variable {Error State Event α β : Type} {rule : Rule Error State Event}

/-- Rules that the steps of a sequence hand on to the whole. -/
structure Rule.Sequential (rule : Rule Error State Event) : Prop where
  still : ∀ state failure?, rule state [] failure? state
  append : ∀ {before middle after first rest failure?}, rule before first none middle →
    rule middle rest failure? after → rule before (first ++ rest) failure? after

/-- An action follows a rule from every state. -/
def Follows (act : Act Error State Event α) (rule : Rule Error State Event) : Prop :=
  ∀ state, rule state (act.run state).events (act.run state).failure? (act.run state).state

namespace Follows

theorem done (sequential : rule.Sequential) (result : Except Error α) :
    (Act.done result : Act Error State Event α).Follows rule := by
  intro state
  exact sequential.still state _

theorem bind (sequential : rule.Sequential) {first : Act Error State Event α}
    {next : α → Act Error State Event β} (here : first.Follows rule)
    (there : ∀ a, (next a).Follows rule) : (first >>= next).Follows rule := by
  intro state
  have head := here state
  unfold Outcome.failure? at head
  cases result : (first.run state).result with
  | ok a =>
      rw [run_bind_ok result]
      rw [result] at head
      exact sequential.append head (there a (first.run state).state)
  | error e =>
      rw [run_bind_error result]
      rw [result] at head
      exact head

end Follows

/-- Whatever an action answers has a property; it may also fail. -/
def Gives (act : Act Error State Event α) (property : α → Prop) : Prop :=
  ∀ state a, (act.run state).result = .ok a → property a

namespace Gives

variable {property : α → Prop}

theorem pure {a : α} (holds : property a) :
    (Pure.pure a : Act Error State Event α).Gives property := by
  intro state b same
  cases same
  exact holds

theorem fail (e : Error) : (Act.fail e : Act Error State Event α).Gives property := by
  intro state b impossible
  cases impossible

theorem bind_of {first : Act Error State Event β} {next : β → Act Error State Event α}
    {middle : β → Prop} (head : first.Gives middle)
    (last : ∀ b, middle b → (next b).Gives property) : (first >>= next).Gives property := by
  intro state a same
  obtain ⟨b, given, same⟩ := bind_eq_ok same
  exact last b (head state b given) _ a same

/-- A sequence answers what its last part answers. -/
theorem bind {first : Act Error State Event β} {next : β → Act Error State Event α}
    (last : ∀ b, (next b).Gives property) : (first >>= next).Gives property := by
  have head : first.Gives fun _ => True := fun _ _ _ => trivial
  exact bind_of head fun b _ => last b

end Gives

end SchemaChange.Act
