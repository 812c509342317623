/-
# SchemaChange.Proofs.Statement.Beginning — how the statements of the bookkeeping begin

What is read of the catalog and what is written can be told apart by how it begins:
reads begin with an S (`catalogQuery_opens`, `columnTypeQuery_opens`), what creates or
alters a table with the words for that (`migrationsTableStatement_begins`,
`renameColumnOfType_begins`).  Neither brackets nor marks change that, as a beginning is
kept in what is sent (`Opens.withoutBrackets`, `Opens.parameterized`).
-/
import SchemaChange.Proofs.Operation.Bookkeeping
import SchemaChange.Proofs.Session.Delivery

set_option autoImplicit false

namespace SchemaChange

open SchemaChange.Statement (stripBrackets markAll markParameters doublePercents)

/-- A text opens with a character. -/
def Opens (c : Char) (text : String) : Prop :=
  ∃ rest, text.toList = c :: rest

/-- Whether a text begins with some words. -/
def begins (words text : String) : Bool :=
  words.toList.isPrefixOf text.toList

theorem begins_append {words text : String} (opens : begins words text = true) (rest : String) :
    begins words (text ++ rest) = true := by
  rw [begins, List.isPrefixOf_iff_prefix] at opens ⊢
  rw [String.toList_append]
  exact opens.trans (List.prefix_append _ _)

/-- A character that a template keeps at its head: no bracket, no mark, and no percent sign. -/
structure Kept (c : Char) : Prop where
  noOpening : c ≠ '['
  noClosing : c ≠ ']'
  noMark : c ≠ '?'
  noPercent : c ≠ '%'

namespace Engine

/-- The statement that an engine makes of a template with parameters. -/
def parameterized (engine : Engine) (template : String) : String :=
  String.ofList (markAll engine.dialect.placeholders (engine.withoutBrackets template).toList)

theorem prepare_parameterized (engine : Engine) (template : String) (value : Value)
    (values : List Value) :
    Statement.prepare engine.dialect (.text template) (.list (value :: values))
      = .ok (engine.parameterized template) := by
  cases engine <;> rfl

end Engine

namespace Opens

variable {c d : Char} {text : String}

theorem append (opens : Opens c text) (rest : String) : Opens c (text ++ rest) := by
  obtain ⟨others, same⟩ := opens
  exact ⟨others ++ rest.toList, by rw [String.toList_append, same, List.cons_append]⟩

theorem unique (opens : Opens c text) (other : Opens d text) : c = d := by
  obtain ⟨rest, same⟩ := opens
  obtain ⟨rest', same'⟩ := other
  rw [same] at same'
  exact (List.cons.inj same').1

theorem not_begins {words : String} (opens : Opens c text) (other : Opens d words) (apart : d ≠ c) :
    begins words text = false := by
  obtain ⟨rest, same⟩ := opens
  obtain ⟨rest', same'⟩ := other
  rw [begins, same, same', List.isPrefixOf_cons_cons]
  simp [apart]

theorem withoutBrackets (opens : Opens c text) (kept : Kept c) (engine : Engine) :
    Opens c (engine.withoutBrackets text) := by
  obtain ⟨rest, same⟩ := opens
  refine ⟨stripBrackets engine.bracketMark.toList rest, ?_⟩
  rw [Engine.withoutBrackets, String.toList_ofList, same, ← List.singleton_append,
    Statement.stripBrackets_append, Statement.stripBrackets_of_not_mem]
  · rfl
  · simpa using kept.noOpening.symm
  · simpa using kept.noClosing.symm

theorem markAll_cons (kept : Kept c) (style : PlaceholderStyle) (rest : List Char) :
    ∃ others, markAll style (c :: rest) = c :: others := by
  cases style with
  | question => exact ⟨rest, rfl⟩
  | numbered => exact ⟨_, by rw [markAll, markParameters, if_neg kept.noMark]⟩
  | format =>
      have single : doublePercents (c :: rest) = c :: doublePercents rest := by
        simp [doublePercents, Text.replaceChar, kept.noPercent]
      exact ⟨_, by rw [markAll, single, markParameters, if_neg kept.noMark]⟩

theorem parameterized (opens : Opens c text) (kept : Kept c) (engine : Engine) :
    Opens c (engine.parameterized text) := by
  obtain ⟨rest, same⟩ := opens.withoutBrackets kept engine
  rw [Engine.parameterized, Opens, String.toList_ofList, same]
  exact markAll_cons kept _ rest

end Opens

namespace Engine

theorem kept_S : Kept 'S' := by
  constructor <;> decide

theorem kept_I : Kept 'I' := by
  constructor <;> decide

theorem catalogQuery_opens (engine : Engine) : Opens 'S' engine.catalogQuery := by
  cases engine with
  | sqlite => exact ⟨_, String.toList_ofList⟩
  | mysql => exact Opens.append ⟨_, String.toList_ofList⟩ _
  | postgres => exact Opens.append ⟨_, String.toList_ofList⟩ _

theorem columnTypeQuery_opens : Opens 'S' columnTypeQuery :=
  Opens.append ⟨_, String.toList_ofList⟩ _

theorem versionQuery_opens : Opens 's' versionQuery :=
  ⟨_, String.toList_ofList⟩

theorem recordTemplate_opens : Opens 'I' recordTemplate :=
  (Opens.append ⟨_, String.toList_ofList⟩ _).append _

theorem recordsQuery_opens : Opens 'S' recordsQuery :=
  (Opens.append ⟨_, String.toList_ofList⟩ _).append _

theorem versionQuery_unbracketed : Statement.Unbracketed versionQuery.toList := by
  decide +kernel

theorem migrationsTableStatement_begins (engine : Engine) (mayExist : Bool) :
    begins "CREATE TABLE"
      (engine.withoutBrackets (engine.migrationsTableStatement mayExist)) = true := by
  have first : begins "CREATE TABLE" (engine.withoutBrackets "CREATE TABLE ") = true := by
    cases engine <;> decide +kernel
  rw [migrationsTableStatement, withoutBrackets_append]
  exact begins_append first _

theorem renameColumnOfType_begins (engine : Engine) (table column newColumn type : Value) :
    begins "ALTER TABLE"
      (engine.withoutBrackets (engine.renameColumnOfType table column newColumn type)) = true := by
  have first : begins "ALTER TABLE" (engine.withoutBrackets "ALTER TABLE ") = true := by
    cases engine <;> decide +kernel
  have altered : begins "ALTER TABLE" (engine.withoutBrackets (engine.alterTable table)) = true := by
    rw [alterTable, withoutBrackets_append]
    exact begins_append first _
  simp only [renameColumnOfType, withoutBrackets_append]
  exact begins_append (begins_append (begins_append (begins_append (begins_append
    (begins_append altered _) _) _) _) _) _

end Engine

end SchemaChange
