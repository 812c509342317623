/-
# SchemaChange.Proofs.Config.Located — what a connection URI can name

Any text at all may be given as a URI.  Either a configuration is read of it, or it is reported
as one that cannot be used; nothing else can happen.  Every configuration that is read is in order:
its port is a port, no part of it is an empty text, and its options leave out the field that asks
for native bindings.

* `Uri.value_ne_of_mem_fields` — a field of a query has a value.
* `ofParts_located` — what the parts of a URI give is in order, whatever they are.
* `uri_is_accepted_or_reported` — every text gives one or the other, and which one depends on
  whether it can be taken apart and its scheme names an engine.
-/
import SchemaChange.Config.Locator
import SchemaChange.Proofs.Text.Percent

set_option autoImplicit false

namespace SchemaChange

open SchemaChange.Text

/-! ## The fields of a query -/

namespace Uri

theorem Field.read?_value_ne {text : List Char} {field : Field} (read : Field.read? text = some field) :
    field.value ≠ "" := by
  unfold Field.read? at read
  split at read
  · rename_i name c value cut
    obtain rfl := Option.some.inj read
    simpa using Percent.decodeForm_ne_nil (List.cons_ne_nil c value)
  · cases read

/-- The value of a field is not empty: what is read of it is not, even where it is ill-formed. -/
theorem value_ne_of_mem_fields {query : List Char} {field : Field} (member : field ∈ fields query) :
    field.value ≠ "" := by
  obtain ⟨text, -, read⟩ := List.mem_filterMap.1 member
  exact Field.read?_value_ne read

/-- Leaving out what comes again adds nothing: every field that is kept was there. -/
theorem mem_of_mem_firstFields {all : List Field} {field : Field} (member : field ∈ firstFields all) :
    field ∈ all := by
  suffices added : ∀ kept, field ∈ all.foldl (fun kept field =>
      if kept.any fun other => other.name == field.name then kept else kept ++ [field]) kept →
      field ∈ kept ∨ field ∈ all by
    simpa using added [] member
  clear member
  induction all with
  | nil => exact fun kept inside => .inl inside
  | cons next all ih =>
      intro kept inside
      rw [List.foldl_cons] at inside
      rcases ih _ inside with before | after
      · split at before
        · exact .inl before
        · rcases List.mem_append.1 before with before | same
          · exact .inl before
          · exact .inr (List.mem_cons.2 (.inl (List.mem_singleton.1 same)))
      · exact .inr (List.mem_cons_of_mem _ after)

end Uri

namespace Config

/-! ## Configurations in order -/

/-- Whether a value is a text that is not empty. -/
def IsNamed (value : Value) : Prop :=
  ∃ text : String, value = .text text ∧ text ≠ ""

/-- Whether a value is null, or a text that is not empty. -/
def IsNamedIfSet (value : Value) : Prop :=
  value = .null ∨ IsNamed value

/-- The configuration of a database that is a file: it has no server. -/
structure OfFile (config : Config) : Prop where
  host : config.host = .null
  port : config.port = none
  user : config.user = .null
  password : config.password = .null
  database : IsNamed config.database

/-- The configuration of a database on a server.  No slash is left at the beginning of its name. -/
structure OnServer (config : Config) : Prop where
  user : IsNamedIfSet config.user
  password : IsNamedIfSet config.password
  database : IsNamedIfSet config.database
  relative : ∀ text : String, config.database = .text text → text.toList.head? ≠ some '/'

/-- A configuration that is in order. -/
structure Located (config : Config) : Prop where
  engine : config.engine.name ∈ ["pg", "mysql", "sqlite"]
  port : ∀ port, config.port = some port → 0 ≤ port ∧ port ≤ 65535
  options : ∃ entries : List (String × String),
    config.options = .map (entries.map fun entry => (.text entry.1, .text entry.2)) ∧
      ∀ entry ∈ entries, entry.1 ≠ nativeField ∧ entry.2 ≠ ""
  file : config.engine = .sqlite → OfFile config
  server : config.engine ≠ .sqlite → OnServer config

theorem textOrNull_named (text : List Char) : IsNamedIfSet (textOrNull text) := by
  unfold textOrNull
  split
  · exact .inl rfl
  · rename_i full
    exact .inr ⟨_, rfl, by simpa using full⟩

theorem textOrNull_eq_text {text : List Char} {named : String}
    (same : textOrNull text = .text named) : named.toList = text := by
  unfold textOrNull at same
  split at same
  · cases same
  · cases same
    simp

theorem fileOfPath_named (path : List Char) : IsNamed (fileOfPath path) := by
  have named (file : List Char) : IsNamed
      (if file.isEmpty then .text memoryDatabase else .text (String.ofList file)) := by
    split
    · exact ⟨_, rfl, by decide⟩
    · rename_i full
      exact ⟨_, rfl, by simpa using full⟩
  exact named _

/-- The options that the fields of a query give are not empty, and none asks for native bindings. -/
theorem optionsOf_fields (query : List Char) :
    ∃ entries : List (String × String),
      optionsOf (Uri.firstFields (Uri.fields query))
        = entries.map (fun entry => (.text entry.1, .text entry.2)) ∧
      ∀ entry ∈ entries, entry.1 ≠ nativeField ∧ entry.2 ≠ "" := by
  refine ⟨((Uri.firstFields (Uri.fields query)).filter fun field => field.name != nativeField).map
    fun field => (field.name, field.value), ?_, ?_⟩
  · simp [optionsOf]
  · intro entry member
    obtain ⟨field, kept, rfl⟩ := List.mem_map.1 member
    obtain ⟨first, other⟩ := List.mem_filter.1 kept
    exact ⟨by simpa using other, Uri.value_ne_of_mem_fields (Uri.mem_of_mem_firstFields first)⟩

theorem ofParts_onServer {engine : Engine} (server : engine ≠ .sqlite) (uri : Uri)
    (port : Option Nat) (dryRun : Value) : OnServer (ofParts engine uri port dryRun) := by
  have relative (text : String) (same : textOrNull (uri.path.dropWhile (· == '/')) = .text text) :
      text.toList.head? ≠ some '/' := by
    have dropped := List.head?_dropWhile_not (· == '/') uri.path
    rw [textOrNull_eq_text same]
    intro slash
    simp [slash] at dropped
  cases engine with
  | sqlite => exact absurd rfl server
  | postgres | mysql =>
      exact ⟨textOrNull_named _, textOrNull_named _, textOrNull_named _, relative⟩

/-- **What the parts of a URI give is in order**, whatever the parts are, if the port is one. -/
theorem ofParts_located (engine : Engine) (uri : Uri) {port : Option Nat}
    (bounded : ∀ n, port = some n → n ≤ 65535) (dryRun : Value) :
    Located (ofParts engine uri port dryRun) := by
  have portInRange (n : Int) (mapped : port.map Int.ofNat = some n) : 0 ≤ n ∧ n ≤ 65535 := by
    obtain ⟨m, found, rfl⟩ := Option.map_eq_some_iff.1 mapped
    have atMost := bounded m found
    simp only [Int.ofNat_eq_natCast]
    omega
  obtain ⟨entries, options, good⟩ := optionsOf_fields uri.query
  constructor
  case engine => cases engine <;> simp [ofParts, Engine.name]
  case port =>
    intro n found
    cases engine with
    | sqlite => cases found
    | postgres | mysql => exact portInRange n found
  case options =>
    refine ⟨entries, ?_, good⟩
    cases engine <;> exact congrArg Value.map options
  case file =>
    intro file
    cases engine with
    | sqlite => exact ⟨rfl, rfl, rfl, rfl, fileOfPath_named uri.path⟩
    | postgres | mysql => cases file
  case server =>
    intro server
    apply ofParts_onServer
    rintro rfl
    exact server rfl

theorem parts_eq_ok {uri : String} {split : Uri} {port : Option Nat} :
    parts uri = .ok (split, port) ↔ Uri.split uri.toList = .ok split ∧ split.port = .ok port := by
  unfold parts
  cases Uri.split uri.toList with
  | error fault => simp [bind, Except.bind]
  | ok read =>
      simp only [bind, Except.bind, Except.ok.injEq]
      constructor
      · intro taken
        cases found : read.port with
        | error fault => simp [found] at taken
        | ok number =>
            obtain ⟨rfl, rfl⟩ : read = split ∧ number = port := by simpa [found] using taken
            exact ⟨rfl, found⟩
      · rintro ⟨rfl, found⟩
        rw [found]

/-- **Every text is accepted or reported.**  Of every text that is given as a URI, a configuration
is read that is in order, or a report says that no configuration can be; there is no other failure.
It is accepted exactly if it can be taken apart and its scheme names an engine. -/
theorem uri_is_accepted_or_reported (uri : String) (dryRun : Value) :
    ((∃ config, ofUri uri dryRun = .ok config ∧ Located config) ∨
      ∃ report, ofUri uri dryRun = .error (.report report) ∧
        report.trouble.family = .configuration) ∧
    ((∃ config, ofUri uri dryRun = .ok config) ↔
      ∃ split port engine, parts uri = .ok (split, port) ∧
        Engine.ofAlias? (String.ofList split.scheme) = some engine) := by
  unfold ofUri
  cases taken : parts uri with
  | error fault => simp [Attempt.report, invalidUri, Report.configuration, Trouble.family]
  | ok read =>
      obtain ⟨split, port⟩ := read
      cases named : Engine.ofAlias? (String.ofList split.scheme) with
      | none =>
          constructor
          · exact .inr ⟨unsupportedScheme split.scheme, by simp [named, Attempt.report], rfl⟩
          · simp [named, Attempt.report]
      | some engine =>
          have bounded : ∀ n, port = some n → n ≤ 65535 := by
            rintro n rfl
            exact Uri.port_le (parts_eq_ok.1 taken).2
          have located := ofParts_located engine split bounded dryRun
          constructor
          · exact .inl ⟨_, by simp only [named], located⟩
          · simp [named]

end Config

end SchemaChange
