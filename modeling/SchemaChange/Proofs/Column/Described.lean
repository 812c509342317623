/-
# SchemaChange.Proofs.Column.Described — what the description of a column says

A description says which attributes a column has, each with a value (`given`).  As long as no
attribute is given twice, its order, its spelling and what else it holds do not matter:
descriptions that are `Rewritten` into one another describe one column.

* `given_perm` — rewriting keeps the attributes with their values.
* `draft_eq_some_iff` — an attribute that is given once has the value that is given.
* `ofEntries_rewritten` — so a rewritten description is read as the column that it described.
-/
import SchemaChange.Column.Spec
import SchemaChange.Proofs.Value.Update

set_option autoImplicit false

namespace SchemaChange

namespace Attribute

theorem ofName?_eq_some {name : String} {field : Attribute} (spelled : ofName? name = some field) :
    name = field.name ∨ name = field.camelName := by
  have found := List.find?_some spelled
  rw [Bool.or_eq_true, beq_iff_eq, beq_iff_eq] at found
  exact found.imp Eq.symm Eq.symm

theorem ofKey?_eq_some {key : Value} {field : Attribute} (spelled : ofKey? key = some field) :
    ∃ name, key = .text name ∧ (name = field.name ∨ name = field.camelName) := by
  cases key with
  | text name => exact ⟨name, rfl, ofName?_eq_some spelled⟩
  | _ => cases spelled

theorem ofKey?_name (field : Attribute) : ofKey? (.text field.name) = some field :=
  ofName?_name field

theorem ofKey?_camelName (field : Attribute) : ofKey? (.text field.camelName) = some field :=
  ofName?_camelName field

theorem ofKey?_eq_none {key : Value}
    (unknown : ∀ field : Attribute, key ≠ .text field.name ∧ key ≠ .text field.camelName) :
    ofKey? key = none := by
  cases spelled : ofKey? key with
  | none => rfl
  | some field =>
      obtain ⟨name, rfl, rfl | rfl⟩ := ofKey?_eq_some spelled
      · exact absurd rfl (unknown field).1
      · exact absurd rfl (unknown field).2

end Attribute

namespace ColumnSpec

/-- The attributes that entries give, with their values. -/
def given (entries : Entries) : List (Attribute × Value) :=
  entries.filterMap fun entry => (Attribute.ofKey? entry.1).map (·, entry.2)

/-- Entries that describe a column: they have a type, no key twice, and no attribute under both of
its spellings. -/
structure Describes (entries : Entries) : Prop where
  typed : ∃ type, (.text "type", type) ∈ entries
  distinct : entries.textKeys.Nodup
  spelled_once : ∀ field : Attribute, field.name ≠ field.camelName →
    .text field.name ∈ entries.keys → .text field.camelName ∉ entries.keys

/-- Descriptions that differ in their order, in the spelling of attributes, and in keys that are no
attribute. -/
inductive Rewritten : Entries → Entries → Prop
  | permuted {entries others : Entries} (same : entries.Perm others) : Rewritten entries others
  | respelled (before after : Entries) (field : Attribute) (value : Value) :
      Rewritten (before ++ (.text field.camelName, value) :: after)
        (before ++ (.text field.name, value) :: after)
  | extended (entries : Entries) (value : Value) {key : Value}
      (unknown : ∀ field : Attribute, key ≠ .text field.name ∧ key ≠ .text field.camelName) :
      Rewritten entries ((key, value) :: entries)
  | symm {entries others : Entries} (back : Rewritten entries others) : Rewritten others entries
  | trans {first second third : Entries} (one : Rewritten first second)
      (next : Rewritten second third) : Rewritten first third

theorem Rewritten.refl (entries : Entries) : Rewritten entries entries :=
  .permuted (List.Perm.refl entries)

variable {entries others : Entries}

/-! ## The attributes that are given -/

theorem given_cons_of_some {key : Value} {field : Attribute} (spelled : Attribute.ofKey? key = some field)
    (value : Value) (rest : Entries) : given ((key, value) :: rest) = (field, value) :: given rest := by
  simp [given, spelled]

theorem given_cons_of_none {key : Value} (unknown : Attribute.ofKey? key = none) (value : Value)
    (rest : Entries) : given ((key, value) :: rest) = given rest := by
  simp [given, unknown]

/-- Rewriting keeps the attributes that are given. -/
theorem given_perm (rewritten : Rewritten entries others) : (given entries).Perm (given others) := by
  induction rewritten with
  | permuted same => exact same.filterMap _
  | respelled before after field value =>
      have camel : given ((.text field.camelName, value) :: after) = (field, value) :: given after :=
        given_cons_of_some (Attribute.ofKey?_camelName field) value after
      have plain : given ((.text field.name, value) :: after) = (field, value) :: given after :=
        given_cons_of_some (Attribute.ofKey?_name field) value after
      rw [given, List.filterMap_append, given, List.filterMap_append]
      rw [given] at camel plain
      rw [camel, plain]
  | extended entries value unknown => rw [given_cons_of_none (Attribute.ofKey?_eq_none unknown)]
  | symm _ ih => exact ih.symm
  | trans _ _ first second => exact first.trans second

/-- A description gives no attribute twice. -/
theorem Describes.nodup_given (describes : Describes entries) :
    ((given entries).map Prod.fst).Nodup := by
  have fields : (given entries).map Prod.fst
      = entries.filterMap fun entry => Attribute.ofKey? entry.1 := by
    rw [given, List.map_filterMap]
    refine List.filterMap_congr fun entry _ => ?_
    cases Attribute.ofKey? entry.1 <;> rfl
  have texts := describes.distinct
  rw [Entries.textKeys, List.Nodup, List.pairwise_filterMap] at texts
  rw [fields, List.Nodup, List.pairwise_filterMap]
  refine texts.imp_of_mem ?_
  rintro ⟨firstKey, firstValue⟩ ⟨secondKey, secondValue⟩ firstIn secondIn apart first spelled
    second spelled' rfl
  -- two keys of one attribute are its two spellings
  obtain ⟨name, rfl, one⟩ := Attribute.ofKey?_eq_some spelled
  obtain ⟨other, rfl, two⟩ := Attribute.ofKey?_eq_some spelled'
  have different : name ≠ other := apart name rfl other rfl
  have firstKeyIn : Value.text name ∈ entries.keys := List.mem_map_of_mem (f := Prod.fst) firstIn
  have secondKeyIn : Value.text other ∈ entries.keys := List.mem_map_of_mem (f := Prod.fst) secondIn
  rcases one with rfl | rfl <;> rcases two with rfl | rfl
  · exact different rfl
  · exact describes.spelled_once first different firstKeyIn secondKeyIn
  · exact describes.spelled_once first different.symm secondKeyIn firstKeyIn
  · exact different rfl

/-! ## Reading them -/

theorem extend_eq_some_iff (once : ((given entries).map Prod.fst).Nodup) (draft : Draft)
    (field : Attribute) (value : Value) :
    draft.extend entries field = some value ↔
      (field, value) ∈ given entries ∨
        field ∉ (given entries).map Prod.fst ∧ draft field = some value := by
  induction entries generalizing draft with
  | nil => simp [Draft.extend, given]
  | cons entry rest ih =>
      obtain ⟨key, item⟩ := entry
      cases spelled : Attribute.ofKey? key with
      | none =>
          rw [given_cons_of_none spelled] at once ⊢
          simp only [Draft.extend, spelled]
          exact ih once draft
      | some own =>
          rw [given_cons_of_some spelled] at once ⊢
          obtain ⟨later, once⟩ := List.nodup_cons.1 once
          simp only [Draft.extend, spelled]
          rw [ih once, Draft.set]
          by_cases same : field = own
          · subst same
            have absent : (field, value) ∉ given rest := by
              intro member
              have again : field ∈ (given rest).map Prod.fst := List.mem_map.2 ⟨_, member, rfl⟩
              exact later again
            simp [absent, later, eq_comm]
          · simp [same]

/-- An attribute that is given once has the value that is given. -/
theorem draft_eq_some_iff (once : ((given entries).map Prod.fst).Nodup) (field : Attribute)
    (value : Value) : draft entries field = some value ↔ (field, value) ∈ given entries := by
  rw [draft, extend_eq_some_iff once]
  simp

/-- The attributes do not depend on how a description is written. -/
theorem draft_rewritten (describes : Describes entries) (rewritten : Rewritten entries others) :
    draft others = draft entries := by
  have perm := given_perm rewritten
  have once := describes.nodup_given
  have once' : ((given others).map Prod.fst).Nodup := ((perm.map Prod.fst).nodup_iff).1 once
  funext field
  refine Option.ext fun value => ?_
  rw [draft_eq_some_iff once', draft_eq_some_iff once, perm.mem_iff]

theorem Describes.draft_type (describes : Describes entries) :
    ∃ type, draft entries .type = some type := by
  obtain ⟨type, member⟩ := describes.typed
  refine ⟨type, (draft_eq_some_iff describes.nodup_given .type type).2 ?_⟩
  exact List.mem_filterMap.2 ⟨(.text "type", type), member, rfl⟩

/-- The column that entries describe. -/
def described (entries : Entries) : ColumnSpec :=
  ofDraft (.ofValue ((draft entries .type).getD .null)) (draft entries)

/-- **A rewritten description is read as the column that was described before.** -/
theorem ofEntries_rewritten (describes : Describes entries) (rewritten : Rewritten entries others) :
    (ofEntries others).result = .ok (described entries) := by
  obtain ⟨type, typed⟩ := describes.draft_type
  simp only [ofEntries, draft_rewritten describes rewritten, typed, described, Option.getD_some]

end ColumnSpec

end SchemaChange
