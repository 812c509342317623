/-
# SchemaChange.Proofs.Column.TypeName — a name has one type

A name is that of a kind if its lower-case form is the token of the kind, or its upper-case form the
title.  The two forms are over all of Unicode and are compared with two lists of words; still, no
name belongs to two kinds.

* `isNamedBy_unique` — a name belongs to at most one kind.
* `ofText_eq` — so the type of a name does not depend on the order in which kinds are tried.
* `settled_iff` — a type is settled, a kind or a name of none, exactly if it is its own type.
* `built_iff` — so are the types of columns, however the descriptions come about.
-/
import SchemaChange.Column.Spec
import SchemaChange.Proofs.Text.Lowered

set_option autoImplicit false

namespace SchemaChange

namespace ColumnKind

variable {text : List Char} {a b kind : ColumnKind}

theorem isNamedBy_iff :
    kind.isNamedBy text = true ↔
      Text.lower text = kind.token.toList ∨ Text.upper text = kind.title.toList := by
  rw [isNamedBy, Bool.or_eq_true, beq_iff_eq, beq_iff_eq]

/-! ## The words of the kinds -/

theorem token_isOwnLetter (kind : ColumnKind) :
    ∀ c ∈ kind.token.toList, Text.isOwnLetter c = true := by
  have each : ∀ kind ∈ all, kind.token.toList.all Text.isOwnLetter = true := by decide +kernel
  exact List.all_eq_true.1 (each kind (mem_all kind))

theorem eq_of_token_eq (same : a.token.toList = b.token.toList) : a = b := by
  have each : ∀ a ∈ all, ∀ b ∈ all, a.token.toList = b.token.toList → a = b := by decide +kernel
  exact each a (mem_all a) b (mem_all b) same

theorem eq_of_title_eq (same : a.title.toList = b.title.toList) : a = b := by
  have each : ∀ a ∈ all, ∀ b ∈ all, a.title.toList = b.title.toList → a = b := by decide +kernel
  exact each a (mem_all a) b (mem_all b) same

/-- The capitals of a token are the title of no other kind. -/
theorem eq_of_capitals_eq (same : a.token.toList.map Char.toUpper = b.title.toList) : a = b := by
  have each : ∀ a ∈ all, ∀ b ∈ all, a.token.toList.map Char.toUpper = b.title.toList → a = b := by
    decide +kernel
  exact each a (mem_all a) b (mem_all b) same

/-! ## The kind of a name -/

theorem eq_of_token_of_title (token : Text.lower text = a.token.toList)
    (title : Text.upper text = b.title.toList) : a = b := by
  have own : ∀ c ∈ Text.lower text, Text.isOwnLetter c = true := by
    rw [token]
    exact token_isOwnLetter a
  refine eq_of_capitals_eq ?_
  rw [← token, ← Text.upper_eq_map_lower own, title]

/-- **A name belongs to at most one kind.** -/
theorem isNamedBy_unique (first : a.isNamedBy text = true) (second : b.isNamedBy text = true) :
    a = b := by
  rcases isNamedBy_iff.1 first with token | title <;>
    rcases isNamedBy_iff.1 second with token' | title'
  · exact eq_of_token_eq (token.symm.trans token')
  · exact eq_of_token_of_title token title'
  · exact (eq_of_token_of_title token' title).symm
  · exact eq_of_title_eq (title.symm.trans title')

theorem isNamedBy_token (kind : ColumnKind) : kind.isNamedBy kind.token.toList = true := by
  refine isNamedBy_iff.2 (.inl (Text.lower_eq_self fun c member => ?_))
  have range := Text.toNat_of_isOwnLetter (token_isOwnLetter kind c member)
  refine ⟨by omega, fun upper => ?_⟩
  have := (Text.isUpper_iff c).1 upper
  omega

/-- A search through all kinds, in any order, finds the kind of a name. -/
theorem find?_isNamedBy_iff {order : List ColumnKind} (complete : ∀ kind, kind ∈ order) :
    order.find? (isNamedBy text) = some kind ↔ kind.isNamedBy text = true := by
  constructor
  · exact fun found => List.find?_some found
  · intro named
    cases found : order.find? (isNamedBy text) with
    | some other => exact congrArg some (isNamedBy_unique (List.find?_some found) named)
    | none => exact absurd named (List.find?_eq_none.1 found kind (complete kind))

end ColumnKind

namespace ColumnType

open ColumnKind (isNamedBy)

variable {text : String} {type : ColumnType}

theorem ofText_eq_kind_iff {kind : ColumnKind} :
    ofText text = .kind kind ↔ kind.isNamedBy text.toList = true := by
  rw [← ColumnKind.find?_isNamedBy_iff ColumnKind.mem_all, ofText]
  split
  · rename_i found
    simp [found]
  · rename_i missing
    simp [missing]

/-- **The order in which kinds are tried makes no difference.** -/
theorem ofText_eq {order : List ColumnKind} (complete : ∀ kind, kind ∈ order) (text : String) :
    ofText text = (order.find? (isNamedBy text.toList)).elim (.named text) .kind := by
  have same : order.find? (isNamedBy text.toList) = ColumnKind.all.find? (isNamedBy text.toList) :=
    Option.ext fun kind => (ColumnKind.find?_isNamedBy_iff complete).trans
      (ColumnKind.find?_isNamedBy_iff ColumnKind.mem_all).symm
  rw [same, ofText]
  cases ColumnKind.all.find? (isNamedBy text.toList) <;> rfl

/-! ## Settled types -/

/-- A type as a value. -/
def toValue : ColumnType → Value
  | .kind known => .kind known
  | .named name => .text name

/-- A type is a kind, or a name that belongs to no kind. -/
def Settled : ColumnType → Prop
  | .kind _ => True
  | .named name => ∀ kind : ColumnKind, kind.isNamedBy name.toList = false

theorem ofText_settled (text : String) : (ofText text).Settled := by
  cases type : ofText text with
  | kind known => trivial
  | named name =>
      rw [ofText] at type
      split at type
      · cases type
      · rename_i missing
        cases type
        intro kind
        simpa using List.find?_eq_none.1 missing kind (ColumnKind.mem_all kind)

/-- A value names the kind that it is, or is read by its text. -/
theorem ofValue_eq (value : Value) :
    (∃ known, ofValue value = .kind known) ∨ ofValue value = ofText value.display := by
  unfold ofValue
  split
  · exact .inl ⟨_, rfl⟩
  · exact .inr rfl

theorem ofValue_settled (value : Value) : (ofValue value).Settled := by
  obtain ⟨known, same⟩ | same := ofValue_eq value
  · rw [same]
    trivial
  · rw [same]
    exact ofText_settled value.display

/-- **A type is settled exactly if it is the type of itself.** -/
theorem settled_iff : type.Settled ↔ ofValue type.toValue = type := by
  constructor
  · intro settled
    cases type with
    | kind known => rfl
    | named name =>
        show ofText name = .named name
        rw [ofText]
        split
        · rename_i kind found
          exact absurd (List.find?_some found) (by simp [settled kind])
        · rfl
  · intro same
    rw [← same]
    exact ofValue_settled _

end ColumnType

namespace ColumnSpec

variable {value : Value} {spec : ColumnSpec}

/-- A description as a draft in which every attribute is given. -/
def toDraft (spec : ColumnSpec) : Draft
  | .type => some spec.type.toValue
  | .length => some spec.length
  | .unsigned => some spec.unsigned
  | .primaryKey => some spec.primaryKey
  | .autoIncrement => some spec.autoIncrement
  | .notNull => some spec.notNull
  | .unique => some spec.unique
  | .null => some spec.null
  | .defaultValue => some spec.defaultValue

/-- How descriptions of columns come about: they are made of a type and of attributes, or read from
a value, where a value that is a description already is one that came about. -/
inductive Built : ColumnSpec → Prop
  | made (type : Value) (attributes : Draft) : Built (ofDraft (.ofValue type) attributes)
  | read {value : Value} {spec : ColumnSpec} (ready : ∀ own, value = .spec own → Built own)
      (result : (ofValue value).result = .ok spec) : Built spec

/-- What is read is the description that a value is, or has the type that the value names. -/
theorem ofValue_cases (read : (ofValue value).result = .ok spec) :
    value = .spec spec ∨ ∃ type attributes, spec = ofDraft (.ofValue type) attributes := by
  cases value with
  | spec own =>
      cases read
      exact .inl rfl
  | text text =>
      cases read
      exact .inr ⟨_, _, rfl⟩
  | kind kind =>
      cases read
      exact .inr ⟨_, _, rfl⟩
  | map entries =>
      change (ofEntries entries).result = _ at read
      simp only [ofEntries] at read
      split at read
      · cases read
        exact .inr ⟨_, _, rfl⟩
      · cases read
  | _ => cases read

/-- **However a description of a column comes about, its type is settled**, and every description of
a settled type comes about. -/
theorem built_iff : Built spec ↔ spec.type.Settled := by
  constructor
  · intro built
    induction built with
    | made type attributes => exact ColumnType.ofValue_settled type
    | read ready result ih =>
        rcases ofValue_cases result with rfl | ⟨type, attributes, rfl⟩
        · exact ih _ rfl
        · exact ColumnType.ofValue_settled type
  · intro settled
    have made := Built.made spec.type.toValue spec.toDraft
    rwa [ColumnType.settled_iff.1 settled] at made

end ColumnSpec

end SchemaChange
