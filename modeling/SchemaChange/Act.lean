/-
# SchemaChange.Act — actions on a state that leave events

An action takes a state and gives a result, the events it caused in order, and the
state after it.  A failure ends a sequence of actions but keeps the state and the
events up to it: a statement that was sent stays sent.

`run_bind_ok` and `run_bind_error` say how a sequence runs; they are all that proofs
about sessions unfold.  `bind_eq_ok` takes a sequence that succeeded apart.
-/
import SchemaChange.Failure

set_option autoImplicit false

namespace SchemaChange

/-- What an action leads to. -/
structure Outcome (Error State Event α : Type) where
  result : Except Error α
  events : List Event
  state : State

/-- The failure that ended an action, if it failed. -/
def Outcome.failure? {Error State Event α : Type} (outcome : Outcome Error State Event α) :
    Option Error :=
  match outcome.result with
  | .ok _ => none
  | .error e => some e

/-- An action on a state. -/
structure Act (Error State Event α : Type) where
  run : State → Outcome Error State Event α

namespace Act

variable {Error Error' State Inner Event α β : Type}

/-- The action that does nothing. -/
def done (result : Except Error α) : Act Error State Event α :=
  ⟨fun state => ⟨result, [], state⟩⟩

/-- One action after another. -/
def bind (first : Act Error State Event α) (next : α → Act Error State Event β) :
    Act Error State Event β :=
  ⟨fun state =>
    let outcome := first.run state
    match outcome.result with
    | .ok a =>
      let after := (next a).run outcome.state
      ⟨after.result, outcome.events ++ after.events, after.state⟩
    | .error e => ⟨.error e, outcome.events, outcome.state⟩⟩

instance : Monad (Act Error State Event) where
  pure a := done (.ok a)
  bind := bind

instance : MonadLift (Except Error) (Act Error State Event) where
  monadLift := done

/-- The action that fails. -/
def fail (e : Error) : Act Error State Event α :=
  done (.error e)

/-- The action that causes events. -/
def emit (events : List Event) : Act Error State Event Unit :=
  ⟨fun state => ⟨.ok (), events, state⟩⟩

/-- The state. -/
def get : Act Error State Event State :=
  ⟨fun state => ⟨.ok state, [], state⟩⟩

/-- The action that changes the state. -/
def modify (change : State → State) : Act Error State Event Unit :=
  ⟨fun state => ⟨.ok (), [], change state⟩⟩

/-- An action with its failures turned into others. -/
def mapError (f : Error → Error') (act : Act Error State Event α) : Act Error' State Event α :=
  ⟨fun state =>
    let outcome := act.run state
    ⟨outcome.result.mapError f, outcome.events, outcome.state⟩⟩

/-- An action on a part of the state. -/
def onPart (part : State → Inner) (replace : State → Inner → State)
    (act : Act Error Inner Event α) : Act Error State Event α :=
  ⟨fun state =>
    let outcome := act.run (part state)
    ⟨outcome.result, outcome.events, replace state outcome.state⟩⟩

theorem ext {first second : Act Error State Event α}
    (h : ∀ state, first.run state = second.run state) : first = second := by
  cases first
  cases second
  congr
  funext state
  exact h state

theorem run_bind_ok {first : Act Error State Event α} {next : α → Act Error State Event β}
    {state : State} {a : α} (h : (first.run state).result = .ok a) :
    (first >>= next).run state =
      ⟨((next a).run (first.run state).state).result,
        (first.run state).events ++ ((next a).run (first.run state).state).events,
        ((next a).run (first.run state).state).state⟩ := by
  simp only [Bind.bind, bind, h]

theorem run_bind_error {first : Act Error State Event α} {next : α → Act Error State Event β}
    {state : State} {e : Error} (h : (first.run state).result = .error e) :
    (first >>= next).run state = ⟨.error e, (first.run state).events, (first.run state).state⟩ := by
  simp only [Bind.bind, bind, h]

theorem bind_assoc {γ : Type} (act : Act Error State Event α)
    (first : α → Act Error State Event β) (second : β → Act Error State Event γ) :
    (act >>= first) >>= second = act >>= fun a => first a >>= second := by
  apply ext
  intro state
  cases here : (act.run state).result with
  | error e =>
    have whole : ((act >>= first).run state).result = .error e := by rw [run_bind_error here]
    rw [run_bind_error whole, run_bind_error here, run_bind_error here]
  | ok a =>
    have unrolled : (act >>= fun a => first a >>= second).run state =
        ⟨((first a >>= second).run (act.run state).state).result,
          (act.run state).events ++ ((first a >>= second).run (act.run state).state).events,
          ((first a >>= second).run (act.run state).state).state⟩ := run_bind_ok here
    rw [unrolled]
    cases there : ((first a).run (act.run state).state).result with
    | error e =>
      have whole : ((act >>= first).run state).result = .error e := by
        rw [run_bind_ok here]; exact there
      rw [run_bind_error whole, run_bind_error there, run_bind_ok here]
    | ok b =>
      have whole : ((act >>= first).run state).result = .ok b := by
        rw [run_bind_ok here]; exact there
      rw [run_bind_ok whole, run_bind_ok there, run_bind_ok here]
      simp

theorem bind_pure (act : Act Error State Event α) : act >>= pure = act := by
  apply ext
  intro state
  cases result : (act.run state).result with
  | ok a =>
    have whole : (act >>= pure).run state =
        ⟨.ok a, (act.run state).events ++ [], (act.run state).state⟩ := run_bind_ok result
    rw [whole, List.append_nil, ← result]
  | error e => rw [run_bind_error result, ← result]

@[simp] theorem run_pure (a : α) (state : State) :
    (pure a : Act Error State Event α).run state = ⟨.ok a, [], state⟩ := rfl

@[simp] theorem run_done (result : Except Error α) (state : State) :
    (done result : Act Error State Event α).run state = ⟨result, [], state⟩ := rfl

@[simp] theorem run_lift (attempt : Except Error α) (state : State) :
    (liftM attempt : Act Error State Event α).run state = ⟨attempt, [], state⟩ := rfl

@[simp] theorem run_fail (e : Error) (state : State) :
    (fail e : Act Error State Event α).run state = ⟨.error e, [], state⟩ := rfl

@[simp] theorem run_emit (events : List Event) (state : State) :
    (emit events : Act Error State Event Unit).run state = ⟨.ok (), events, state⟩ := rfl

@[simp] theorem run_modify (change : State → State) (state : State) :
    (modify change : Act Error State Event Unit).run state = ⟨.ok (), [], change state⟩ := rfl

theorem failure?_mapError (f : Error → Error') (act : Act Error State Event α) (state : State) :
    ((mapError f act).run state).failure? = (act.run state).failure?.map f := by
  simp only [mapError, Outcome.failure?]
  cases (act.run state).result <;> rfl

/-- Reading the state causes nothing, so what follows runs on the state that is read. -/
@[simp] theorem run_get_bind (next : State → Act Error State Event β) (state : State) :
    (get >>= next).run state = (next state).run state := by
  simp only [Bind.bind, bind, get, List.nil_append]

theorem run_emit_bind (events : List Event) (next : Unit → Act Error State Event β)
    (state : State) :
    (emit events >>= next).run state =
      ⟨((next ()).run state).result, events ++ ((next ()).run state).events,
        ((next ()).run state).state⟩ :=
  run_bind_ok rfl

theorem run_lift_bind_ok {attempt : Except Error α} {a : α} (h : attempt = .ok a)
    (next : α → Act Error State Event β) (state : State) :
    (liftM attempt >>= next).run state = (next a).run state := by
  subst h
  rfl

theorem run_lift_bind_error {attempt : Except Error α} {e : Error} (h : attempt = .error e)
    (next : α → Act Error State Event β) (state : State) :
    (liftM attempt >>= next).run state = ⟨.error e, [], state⟩ := by
  subst h
  rfl

theorem run_bind_pure (act : Act Error State Event α) (b : β) (state : State) :
    (act >>= fun _ => pure b).run state =
      ⟨(act.run state).result.map fun _ => b, (act.run state).events, (act.run state).state⟩ := by
  cases result : (act.run state).result with
  | ok a =>
    rw [run_bind_ok result]
    simp [Except.map]
  | error e =>
    rw [run_bind_error result]
    rfl

/-- A sequence that succeeded went through a result of its first part. -/
theorem bind_eq_ok {first : Act Error State Event α} {next : α → Act Error State Event β}
    {state : State} {b : β} (h : ((first >>= next).run state).result = .ok b) :
    ∃ a, (first.run state).result = .ok a ∧
      ((next a).run (first.run state).state).result = .ok b := by
  cases hfirst : (first.run state).result with
  | ok a =>
    rw [run_bind_ok hfirst] at h
    exact ⟨a, rfl, h⟩
  | error e =>
    rw [run_bind_error hfirst] at h
    cases h

end Act

end SchemaChange
