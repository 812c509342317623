/-
# SchemaChange.Proofs.Dialect.KnownType — which types a dialect knows

A dialect compares the type of a column with the kinds that it names in its own way, one after the
other or as the keys of a table, and the common grammar asks whether the type is a kind at all.  The
answers need not agree: a kind equals its token, so a comparison would know the name `text`, which is
no kind.  They do agree on settled types, and the type of a column is settled.

* `equals_iff`, `Settled.equals_iff` — what equals a kind, and that only the kind is settled.
* `Compares.typeName` — every dialect names settled types as comparisons do.
* `comparedAlike` — so all ways of comparing know the same types.
* `ofValue_columns_built` — the columns of a table come about as all columns do.
* `type_names_resolve_unambiguously` — a name has one type, and all dialects know the same ones.
-/
import SchemaChange.Proofs.Column.TypeName
import SchemaChange.Proofs.Operation.Reading

set_option autoImplicit false

namespace SchemaChange

/-! ## Comparing a type with kinds -/

/-- Kinds with their names, of which the first that a type equals counts. -/
abbrev TypeTable := List (ColumnKind × String)

namespace ColumnType

variable {type : ColumnType} {sought : ColumnKind}

/-- Whether a type is a kind. -/
def isKind : ColumnType → Bool
  | .kind _ => true
  | .named _ => false

/-- Whether a type equals a kind. -/
def equals (type : ColumnType) (sought : ColumnKind) : Bool :=
  type.toValue.sameKey (.kind sought)

/-- The name of a type in a table. -/
def lookup (type : ColumnType) (table : TypeTable) : Option String :=
  (table.find? fun entry => type.equals entry.1).map Prod.snd

/-- A kind is equalled by itself and by its token. -/
theorem equals_iff : type.equals sought = true ↔ type = .kind sought ∨ type = .named sought.token := by
  cases type with
  | kind known => simp [equals, toValue, Value.sameKey]
  | named name => simp [equals, toValue, Value.sameKey]

example : (named "text").equals .text = true ∧ (named "text").isKind = false := by decide

namespace Settled

theorem ne_token (settled : type.Settled) (sought : ColumnKind) : type ≠ .named sought.token := by
  rintro rfl
  have unnamed := settled sought
  rw [ColumnKind.isNamedBy_token] at unnamed
  cases unnamed

theorem equals_iff (settled : type.Settled) : type.equals sought = true ↔ type = .kind sought := by
  rw [ColumnType.equals_iff, or_iff_left (settled.ne_token sought)]

theorem not_equals_of_named {name : String} (settled : (named name).Settled) (sought : ColumnKind) :
    (named name).equals sought = false := by
  rw [← Bool.not_eq_true, settled.equals_iff]
  exact nofun

theorem lookup_of_named {name : String} (settled : (named name).Settled) (table : TypeTable) :
    (named name).lookup table = none := by
  rw [lookup, List.find?_eq_none.2, Option.map_none]
  intro entry _
  rw [settled.not_equals_of_named]
  exact Bool.false_ne_true

/-- What is found in a table is a kind that the table lists. -/
theorem isSome_lookup_iff (settled : type.Settled) (table : TypeTable) :
    (type.lookup table).isSome = true ↔ ∃ entry ∈ table, type = .kind entry.1 := by
  simp only [lookup, Option.isSome_map, List.find?_isSome, settled.equals_iff]

end Settled

end ColumnType

/-! ## Naming a type by comparison -/

namespace Dialect

/-- The kinds in the common grammar. -/
def commonTypes : TypeTable :=
  ColumnKind.all.map fun kind => (kind, kind.commonName)

/-- The kinds that PostgreSQL names in its own way. -/
def postgresTypes : TypeTable :=
  [(.string, "VARCHAR"), (.dateTime, "TIMESTAMP"), (.blob, "BYTEA")]

/-- The kinds that MySQL names in its own way, besides those of which it has several sizes. -/
def mysqlTypes : TypeTable :=
  [(.dateTime, "DATETIME"), (.boolean, "TINYINT(1)")]

/-- What an engine finds by comparisons, of the types that it names in its own way. -/
def comparedType (engine : Engine) (spec : ColumnSpec) : Option String :=
  match engine with
  | .postgres => spec.type.lookup postgresTypes
  | .mysql =>
    if spec.type.equals .text then some (sizeTier "TEXT" spec.length)
    else if spec.type.equals .blob then some (sizeTier "BLOB" spec.length)
    else spec.type.lookup mysqlTypes
  | .sqlite => none

/-- The dialects, each with what it finds by comparisons: those of the engines, and those that are
made from options. -/
inductive Compares : Dialect → (ColumnSpec → Option String) → Prop
  | engine (engine : Engine) : Compares engine.dialect (comparedType engine)
  | configured {options : Entries} {dialect : Dialect} (made : ofOptions options = .ok dialect) :
      Compares dialect fun _ => none

/-- The name of a type by comparisons: what a dialect found, or else the name in the common grammar, or
else the type itself in upper case, with a note. -/
def nameFound (type : ColumnType) (found : Option String) : Noted String :=
  match found.or (type.lookup commonTypes) with
  | some name => pure name
  | none => do
    let unknown := String.ofList (Text.upper type.toValue.display.toList)
    Noted.note .warning ("Using unknown data type " ++ unknown)
    pure unknown

variable {dialect : Dialect} {compared : ColumnSpec → Option String} {spec : ColumnSpec}

/-- Dialects that are made from options have no names of their own for types. -/
theorem ownType_of_ofOptions {options : Entries} (made : ofOptions options = .ok dialect)
    (spec : ColumnSpec) : dialect.ownType spec = none := by
  simp only [ofOptions] at made
  split at made
  · cases made
  · cases style : readStyle (options.getD "placeholder_style" (.text "qmark")) with
    | error failure =>
        rw [style] at made
        cases made
    | ok placeholders =>
        cases unsized : readKeys (options.getD "unsized_types" (.list [])) with
        | error failure =>
            rw [style, unsized] at made
            cases made
        | ok types =>
            rw [style, unsized] at made
            cases made
            rfl

/-- On settled types, a dialect finds by comparisons what it names in its own way. -/
theorem Compares.ownType (compares : Compares dialect compared) (settled : spec.type.Settled) :
    compared spec = dialect.ownType spec := by
  cases compares with
  | configured made => exact (ownType_of_ofOptions made spec).symm
  | engine engine =>
      obtain ⟨type, _⟩ := spec
      cases type with
      | kind known => cases engine <;> cases known <;> rfl
      | named name =>
          cases engine with
          | postgres => exact settled.lookup_of_named _
          | mysql =>
              simp only [comparedType, settled.not_equals_of_named, settled.lookup_of_named]
              rfl
          | sqlite => rfl

theorem lookup_commonTypes (known : ColumnKind) :
    (ColumnType.kind known).lookup commonTypes = some known.commonName := by
  cases known <;> rfl

theorem isSome_lookup_commonTypes {type : ColumnType} (settled : type.Settled) :
    (type.lookup commonTypes).isSome = true ↔ type.isKind = true := by
  cases type with
  | kind known => simp [lookup_commonTypes, ColumnType.isKind]
  | named name => simp [settled.lookup_of_named, ColumnType.isKind]

/-- On settled types, a dialect names by comparisons. -/
theorem Compares.typeName (compares : Compares dialect compared) (settled : spec.type.Settled) :
    dialect.typeName spec = nameFound spec.type (compared spec) := by
  rw [Dialect.typeName, nameFound, compares.ownType settled]
  cases dialect.ownType spec with
  | some own => rfl
  | none =>
      cases type : spec.type with
      | kind known => rw [Option.none_or, lookup_commonTypes]
      | named name =>
          rw [type] at settled
          rw [Option.none_or, settled.lookup_of_named]
          rfl

/-- No dialect has a name for a name. -/
theorem Compares.ownType_of_named (compares : Compares dialect compared) {name : String}
    (type : spec.type = .named name) : dialect.ownType spec = none := by
  cases compares with
  | configured made => exact ownType_of_ofOptions made spec
  | engine engine => cases engine <;> simp [Engine.dialect, postgres, mysql, sqlite, type]

/-- A type is known to a dialect, named without a note, exactly if it is a kind. -/
theorem Compares.notes_iff (compares : Compares dialect compared) :
    (dialect.typeName spec).notes = [] ↔ spec.type.isKind = true := by
  cases type : spec.type with
  | kind known =>
      rw [Dialect.typeName, type]
      cases dialect.ownType spec <;> simp [ColumnType.isKind]
  | named name =>
      rw [Dialect.typeName, compares.ownType_of_named type, type]
      exact ⟨nofun, nofun⟩

end Dialect

/-! ## The types of columns -/

namespace ColumnSpec

variable {spec : ColumnSpec}

/-- All ways of comparing the type of a column know the same types. -/
structure ComparedAlike (spec : ColumnSpec) : Prop where
  /-- equality with a kind -/
  equality : ∀ sought, spec.type.equals sought = true ↔ spec.type = .kind sought
  /-- being listed in a table of kinds -/
  lookup : ∀ table, (spec.type.lookup table).isSome = true ↔ ∃ entry ∈ table, spec.type = .kind entry.1
  /-- being listed in the table of all kinds -/
  common : (spec.type.lookup Dialect.commonTypes).isSome = true ↔ spec.type.isKind = true
  /-- so dialects that compare in either way name the type as they do -/
  naming : ∀ {dialect compared}, Dialect.Compares dialect compared →
    dialect.typeName spec = Dialect.nameFound spec.type (compared spec)
  /-- and all of them know it, or else leave a note, alike -/
  known : ∀ {dialect compared}, Dialect.Compares dialect compared →
    ((dialect.typeName spec).notes = [] ↔ spec.type.isKind = true)

theorem comparedAlike (settled : spec.type.Settled) : spec.ComparedAlike where
  equality _ := settled.equals_iff
  lookup := settled.isSome_lookup_iff
  common := Dialect.isSome_lookup_commonTypes settled
  naming compares := compares.typeName settled
  known compares := compares.notes_iff

end ColumnSpec

/-- **The columns of a table come about as all columns do**, from the descriptions that it lists. -/
theorem Table.ofValue_columns_built {value : Value} {table : Table}
    (read : (Table.ofValue value).result = .ok table)
    (ready : ∀ name own, (name, .spec own) ∈ Table.listed value → ColumnSpec.Built own) :
    ∀ column ∈ table.columns, ColumnSpec.Built column.2 := by
  intro column member
  obtain ⟨description, listed, readIt⟩ := Table.readColumns_mem (Table.ofValue_columns read) member
  refine .read (fun own same => ready column.1 own ?_) readIt
  rwa [← same]

/-- **A name has one type, and all dialects know the same types.**  No text names two kinds, so the
kind that it names is its type, in whatever order kinds are tried; a type is its own type; and the
type of a column, however its description comes about, is a kind or a name of no kind, on which all
ways of comparing agree. -/
theorem type_names_resolve_unambiguously :
    (∀ (text : List Char) (a b : ColumnKind),
      a.isNamedBy text = true → b.isNamedBy text = true → a = b) ∧
    (∀ (text : String) (kind : ColumnKind), ColumnType.ofText text = .kind kind ↔
      Text.lower text.toList = kind.token.toList ∨ Text.upper text.toList = kind.title.toList) ∧
    (∀ order : List ColumnKind, (∀ kind, kind ∈ order) → ∀ text : String,
      ColumnType.ofText text
        = (order.find? (ColumnKind.isNamedBy text.toList)).elim (.named text) .kind) ∧
    (∀ value : Value,
      ColumnType.ofValue (ColumnType.ofValue value).toValue = ColumnType.ofValue value) ∧
    (∀ spec : ColumnSpec, spec.Built →
      ((∃ kind, spec.type = .kind kind) ∨
        ∃ name, spec.type = .named name ∧ ∀ kind, ColumnKind.isNamedBy name.toList kind = false) ∧
      spec.ComparedAlike) ∧
    (∀ (value : Value) (table : Table), (Table.ofValue value).result = .ok table →
      (∀ name own, (name, .spec own) ∈ Table.listed value → ColumnSpec.Built own) →
      ∀ column ∈ table.columns, ColumnSpec.Built column.2) := by
  refine ⟨fun text a b => ColumnKind.isNamedBy_unique,
    fun text kind => ColumnType.ofText_eq_kind_iff.trans ColumnKind.isNamedBy_iff,
    fun order => ColumnType.ofText_eq,
    fun value => ColumnType.settled_iff.1 (ColumnType.ofValue_settled value), ?_,
    fun value table => Table.ofValue_columns_built⟩
  intro spec built
  have settled := ColumnSpec.built_iff.1 built
  refine ⟨?_, ColumnSpec.comparedAlike settled⟩
  cases type : spec.type with
  | kind kind => exact .inl ⟨kind, rfl⟩
  | named name =>
      rw [type] at settled
      exact .inr ⟨name, rfl, settled⟩

/-- The columns of a table, with types that are named with a ligature, in mixed case, and by no kind. -/
def mixedTypes : Entries :=
  [(.text "a", .text "ﬆring"), (.text "b", .map [(.text "type", .text "Date_Time")]),
    (.text "c", .text "geometry")]

/-- The ligature is two letters in upper case only; in whatever order kinds are tried, theirs is found.
PostgreSQL knows the types of two columns and passes the third through. -/
theorem type_names_resolve_unambiguously_mixed :
    (∀ kind : ColumnKind, kind.isNamedBy "ﬆring".toList = true → kind = .string) ∧
    ColumnType.ofText "ﬆring" = .kind .string ∧
    ColumnType.ofValue (.kind .string) = .kind .string ∧
    ∃ table, (Table.ofValue (.map mixedTypes)).result = .ok table ∧
      (∀ column ∈ table.columns, ColumnSpec.ComparedAlike column.2) ∧
      table.columns.map (fun column => (Dialect.postgres.typeName column.2).result)
        = [.ok "VARCHAR", .ok "TIMESTAMP", .ok "GEOMETRY"] := by
  obtain ⟨unique, -, order, again, built, columns⟩ := type_names_resolve_unambiguously
  have named : ColumnKind.string.isNamedBy "ﬆring".toList = true := by decide +kernel
  have backwards : ∀ kind, kind ∈ ColumnKind.all.reverse := fun kind =>
    List.mem_reverse.2 (ColumnKind.mem_all kind)
  have found : ColumnKind.all.reverse.find? (ColumnKind.isNamedBy "ﬆring".toList) = some .string := by
    decide +kernel
  have ligature : ColumnType.ofText "ﬆring" = .kind .string := by
    rw [order _ backwards, found]
    rfl
  have mixedCase : ColumnType.ofText "Date_Time" = .kind .dateTime := by decide +kernel
  have unknown : ColumnType.ofText "geometry" = .named "geometry" := by decide +kernel
  have capitals : Text.upper "geometry".toList = "GEOMETRY".toList := by decide +kernel
  have unread : ∀ name own, (name, .spec own) ∈ Table.listed (.map mixedTypes) →
      ColumnSpec.Built own := by
    intro name own listed
    change (name, .spec own) ∈ mixedTypes at listed
    simp [mixedTypes] at listed
  have string := again (.text "ﬆring")
  refine ⟨fun kind other => unique _ _ _ other named, ligature, ?_,
    ⟨[(.text "a", .ofType (.ofText "ﬆring")), (.text "b", .ofType (.ofText "Date_Time")),
      (.text "c", .ofType (.ofText "geometry"))], .bool false⟩, rfl, ?_, ?_⟩
  · rwa [show ColumnType.ofValue (.text "ﬆring") = .ofText "ﬆring" from rfl, ligature] at string
  · intro column member
    exact (built _ (columns (.map mixedTypes) _ rfl unread column member)).2
  · rw [ligature, mixedCase, unknown]
    show [_, _, Except.ok (String.ofList (Text.upper "geometry".toList))] = _
    rw [capitals]
    rfl

end SchemaChange
