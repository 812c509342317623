/-
# SchemaChange.Proofs.Operation.Statements — the statements that a schema change renders

Most operations render all of their statements before they submit the first one.
`Operation.statements?` gives this rendering, and `script_eq_statements` says that
the script of such an operation is the rendering followed by its statements in order.
What is left are the bookkeeping, the free statements, and MySQL's renaming of a
column, which reads the type of the column first.
-/
import SchemaChange.Operation.Script

set_option autoImplicit false

namespace SchemaChange

namespace Script

variable {α β : Type}

theorem notes_bind (notes : List Note) (rest : Script α) (next : α → Script β) :
    (Script.notes notes rest).bind next = Script.notes notes (rest.bind next) := by
  induction notes with
  | nil => rfl
  | cons n notes ih =>
      show Script.note n ((Script.notes notes rest).bind next) = _
      rw [ih]
      rfl

/-- The script that renders statements and then submits them in order. -/
def ofStatements (rendering : Noted (List String)) : Script Value :=
  (ofNoted rendering).bind runAll

theorem ofStatements_of_ok {rendering : Noted (List String)} {plan : List String}
    (rendered : rendering.result = .ok plan) :
    ofStatements rendering = notes rendering.notes (runAll plan) := by
  rw [ofStatements, ofNoted, notes_bind, rendered]
  rfl

theorem ofStatements_of_error {rendering : Noted (List String)} {failure : Failure}
    (failed : rendering.result = .error failure) :
    ofStatements rendering = notes rendering.notes (.done (.error failure)) := by
  rw [ofStatements, ofNoted, notes_bind, failed]
  rfl

theorem runRendered_eq (rendering : Noted String) :
    runRendered rendering = ofStatements (rendering >>= fun statement => pure [statement]) := by
  obtain ⟨left, result⟩ := rendering
  cases result with
  | ok statement =>
      have rendered : ((⟨left, .ok statement⟩ : Noted String) >>= fun statement =>
          pure [statement]).result = .ok [statement] := rfl
      rw [ofStatements_of_ok rendered]
      show (notes left (.done (.ok statement))).bind run = notes (left ++ []) (run statement)
      rw [notes_bind, List.append_nil]
      rfl
  | error failure =>
      have failed : ((⟨left, .error failure⟩ : Noted String) >>= fun statement =>
          pure [statement]).result = .error failure := rfl
      rw [ofStatements_of_error failed]
      show (notes left (.done (.error failure))).bind run = notes left (.done (.error failure))
      rw [notes_bind]
      rfl

end Script

namespace Operation

/-- A rendering of a single statement. -/
def single (rendering : Noted String) : Noted (List String) :=
  rendering >>= fun statement => pure [statement]

/-- The rendering of an operation that renders its statements before it submits them. -/
def statements? (engine : Engine) : Operation → Option (Noted (List String))
  | .createTable table options => some (single (engine.createTable table options))
  | .dropTable table ifExists => some (pure [engine.dropTable table ifExists])
  | .renameTable table newTable => some (pure [engine.renameTable table newTable])
  | .addColumn table column spec => some (single (engine.addColumn table column spec))
  | .removeColumn table column => some (pure [engine.removeColumn table column])
  | .renameColumn table column newColumn =>
      match engine with
      | .mysql => none
      | _ => some (pure [engine.renameColumn table column newColumn])
  | .changeColumn table column spec => some (engine.changeColumn table column spec)
  | .addIndex table index columns unique =>
      some (single (.ofAttempt (engine.addIndex table index columns unique)))
  | .removeIndex index table => some (single (.ofAttempt (engine.removeIndex index table)))
  | .addForeignKey table key columns parent parentColumns actions =>
      some (single (.ofAttempt
        (engine.addForeignKey table key columns parent parentColumns actions)))
  | .removeForeignKey table key => some (single (.ofAttempt (engine.removeForeignKey table key)))
  | .insert table columns values => some (single (.ofAttempt (engine.insert table columns values)))
  | _ => none

/-- **The script of a schema change is its rendering, followed by its statements.** -/
theorem script_eq_statements {engine : Engine} {operation : Operation}
    {rendering : Noted (List String)} (renders : operation.statements? engine = some rendering)
    (now : Timestamp) : operation.script engine now = Script.ofStatements rendering := by
  cases operation with
  | createTable table options => cases renders; exact Script.runRendered_eq _
  | addColumn table column spec => cases renders; exact Script.runRendered_eq _
  | addIndex table index columns unique => cases renders; exact Script.runRendered_eq _
  | removeIndex index table => cases renders; exact Script.runRendered_eq _
  | addForeignKey table key columns parent parentColumns actions =>
      cases renders; exact Script.runRendered_eq _
  | removeForeignKey table key => cases renders; exact Script.runRendered_eq _
  | insert table columns values => cases renders; exact Script.runRendered_eq _
  | renameColumn table column newColumn => cases engine <;> cases renders <;> rfl
  | changeColumn table column spec => cases renders; rfl
  | dropTable table ifExists => cases renders; rfl
  | renameTable table newTable => cases renders; rfl
  | removeColumn table column => cases renders; rfl
  | _ => cases renders

theorem single_eq_ok {rendering : Noted String} {plan : List String}
    (rendered : (single rendering).result = .ok plan) :
    ∃ statement, rendering.result = .ok statement ∧ plan = [statement] := by
  obtain ⟨statement, given, same⟩ := Noted.result_bind_eq_ok rendered
  cases same
  exact ⟨statement, given, rfl⟩

theorem changeColumn_ne_nil {engine : Engine} {table column spec : Value} {plan : List String}
    (rendered : (engine.changeColumn table column spec).result = .ok plan) : plan ≠ [] := by
  cases engine with
  | sqlite => cases rendered
  | postgres =>
      obtain ⟨read, -, same⟩ := Noted.result_bind_eq_ok rendered
      cases same
      exact Engine.changePlan_ne_nil _ _ _ _
  | mysql =>
      obtain ⟨read, -, rest⟩ := Noted.result_bind_eq_ok rendered
      obtain ⟨statement, -, same⟩ := Noted.result_bind_eq_ok rest
      cases same
      exact List.cons_ne_nil _ _

/-- A schema change that can be rendered has a statement. -/
theorem statements_ne_nil {engine : Engine} {operation : Operation}
    {rendering : Noted (List String)} {plan : List String}
    (renders : operation.statements? engine = some rendering)
    (rendered : rendering.result = .ok plan) : plan ≠ [] := by
  have alone {source : Noted String} (given : (single source).result = .ok plan) : plan ≠ [] := by
    obtain ⟨statement, -, rfl⟩ := single_eq_ok given
    exact List.cons_ne_nil _ _
  cases operation with
  | createTable table options => cases renders; exact alone rendered
  | addColumn table column spec => cases renders; exact alone rendered
  | addIndex table index columns unique => cases renders; exact alone rendered
  | removeIndex index table => cases renders; exact alone rendered
  | addForeignKey table key columns parent parentColumns actions =>
      cases renders; exact alone rendered
  | removeForeignKey table key => cases renders; exact alone rendered
  | insert table columns values => cases renders; exact alone rendered
  | changeColumn table column spec => cases renders; exact changeColumn_ne_nil rendered
  | renameColumn table column newColumn =>
      cases engine <;> cases renders <;> cases rendered <;> exact List.cons_ne_nil _ _
  | dropTable table ifExists => cases renders; cases rendered; exact List.cons_ne_nil _ _
  | renameTable table newTable => cases renders; cases rendered; exact List.cons_ne_nil _ _
  | removeColumn table column => cases renders; cases rendered; exact List.cons_ne_nil _ _
  | _ => cases renders

end Operation

end SchemaChange
