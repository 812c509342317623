/-
# SchemaChange.Proofs.Config.Target — a connection URI names what was written into it

A URI for a server is written with its user, password and options encoded, so they may hold any
characters; host, database and port are written as they are.  Reading the URI gives all of them
back, and nothing else.  The file of an SQLite URI is not encoded, and stays what it is.

* `ofUri_server` — the configuration of a written URI for a server.
* `ofUri_file` — the configuration of an SQLite URI, and its description.
* `written_uri_is_read_back` — both for every scheme, content and option.
-/
import SchemaChange.Config.Locator
import SchemaChange.Proofs.Uri.Written

set_option autoImplicit false

namespace SchemaChange.Config

open SchemaChange.Text

/-- Whether a character is a lower-case ASCII letter, a digit, a hyphen or a point. -/
def isHostChar (c : Char) : Bool :=
  c.isLower || c.isDigit || c == '-' || c == '.'

/-- Whether a character is an ASCII letter, a digit, an underscore or a hyphen. -/
def isDatabaseChar (c : Char) : Bool :=
  c.isAlphanum || c == '_' || c == '-'

/-- What a URI for a server names, with the scheme by which it does. -/
structure Target where
  engine : Engine
  scheme : String
  user : String
  password : String
  host : String
  port : Nat
  database : String
  options : List (String × String)
  is_scheme : Uri.isScheme scheme.toList = true
  accepted : Engine.ofAlias? (String.ofList (lower scheme.toList)) = some engine
  server : engine ≠ .sqlite
  user_ne : user ≠ ""
  password_ne : password ≠ ""
  host_ne : host ≠ ""
  host_chars : ∀ c ∈ host.toList, isHostChar c = true
  port_le : port ≤ 65535
  database_ne : database ≠ ""
  database_chars : ∀ c ∈ database.toList, isDatabaseChar c = true
  options_ne : ∀ option ∈ options, option.1 ≠ "" ∧ option.2 ≠ "" ∧ option.1 ≠ nativeField
  options_distinct : (options.map Prod.fst).Nodup

/-- A text with every byte escaped that is no unreserved character. -/
def encoded (text : String) : String :=
  String.ofList (Percent.encode text.toList)

namespace Target

variable {target : Target}

/-- The URI of a target without options. -/
def location (target : Target) : String :=
  target.scheme ++ "://" ++ encoded target.user ++ ":" ++ encoded target.password ++ "@"
    ++ target.host ++ ":" ++ toString target.port ++ "/" ++ target.database

/-- The options of a target as a query. -/
def query (target : Target) : String :=
  String.intercalate "&" (target.options.map fun option =>
    encoded option.1 ++ "=" ++ encoded option.2)

/-- The URI of a target. -/
def uri (target : Target) : String :=
  target.location ++ "?" ++ target.query

/-- The configuration that a target asks for. -/
def config (target : Target) (dryRun : Value) : Config where
  engine := target.engine
  host := .text target.host
  port := some target.port
  user := .text target.user
  password := .text target.password
  database := .text target.database
  native := .bool false
  connection := .null
  dryRun := dryRun
  options := .map (target.options.map fun option => (.text option.1, .text option.2))

/-! ## The written parts -/

/-- The authority of a target. -/
def authority (target : Target) : List Char :=
  Uri.writtenAuthority (Percent.encode target.user.toList) (Percent.encode target.password.toList)
    target.host.toList target.port

/-- The options of a target as fields. -/
def fields (target : Target) : List Uri.Field :=
  target.options.map fun option => ⟨option.1, option.2⟩

theorem toList_location :
    target.location.toList =
      Uri.written target.scheme.toList target.authority ('/' :: target.database.toList) none := by
  simp [location, encoded, Uri.written, Uri.withQuery, authority, Uri.writtenAuthority, digits]

theorem toList_query : target.query.toList = Uri.writtenQuery target.fields := by
  have same : ∀ option ∈ target.options,
      (String.toList ∘ fun option => encoded option.1 ++ "=" ++ encoded option.2) option
        = (Uri.Field.written ∘ fun option => ⟨option.1, option.2⟩) option := by
    intro option member
    simp [encoded, Uri.Field.written]
  have separator : "&".toList = ['&'] := rfl
  rw [query, toList_intercalate, Uri.writtenQuery, fields, List.map_map, List.map_map, separator,
    List.map_congr_left same]

theorem toList_uri :
    target.uri.toList = Uri.written target.scheme.toList target.authority
      ('/' :: target.database.toList) (some (Uri.writtenQuery target.fields)) := by
  rw [uri, String.toList_append, String.toList_append, toList_location, toList_query]
  simp [Uri.written, Uri.withQuery]

/-! ## Their characters -/

theorem isPlain_of_isHostChar {c : Char} (allowed : isHostChar c = true) :
    Percent.isPlain c = true := by
  simp only [isHostChar, Bool.or_eq_true] at allowed
  simp only [Percent.isPlain, Percent.isUnreserved, isAlphanum_iff, isAlpha_iff, Bool.or_eq_true]
  grind

theorem isPlain_of_isDatabaseChar {c : Char} (allowed : isDatabaseChar c = true) :
    Percent.isPlain c = true := by
  simp only [isDatabaseChar, Bool.or_eq_true] at allowed
  simp only [Percent.isPlain, Percent.isUnreserved, Bool.or_eq_true]
  grind

theorem isPlain_of_mem_digits {c : Char} {n : Nat} (member : c ∈ digits n) :
    Percent.isPlain c = true := by
  have digit := isAsciiDigit_of_mem_digits member
  rw [isAsciiDigit_eq_isDigit] at digit
  simp [Percent.isPlain, Percent.isUnreserved, isAlphanum_iff, digit]

/-- A character that is a delimiter elsewhere is not in the host of a target. -/
theorem not_mem_host (target : Target) {c : Char} (special : Percent.isPlain c = false) :
    c ∉ target.host.toList :=
  not_mem_of_all (fun c member => isPlain_of_isHostChar (target.host_chars c member)) special

theorem delimiters_not_mem_host (target : Target) :
    ∀ c ∈ ['@', ':', '['], c ∉ target.host.toList := by
  have special : ['@', ':', '['].all (!Percent.isPlain ·) = true := by decide
  intro c listed
  exact target.not_mem_host (by simpa using List.all_eq_true.1 special c listed)

theorem not_mem_database (target : Target) {c : Char} (special : isDatabaseChar c = false) :
    c ∉ target.database.toList :=
  not_mem_of_all target.database_chars special

/-- The characters of an authority are plain but for two delimiters. -/
theorem mem_authority {c : Char} (member : c ∈ target.authority) :
    Percent.isPlain c = true ∨ c = ':' ∨ c = '@' := by
  simp only [authority, Uri.writtenAuthority, List.mem_append, List.mem_cons] at member
  rcases member with (user | rfl | password) | rfl | host | rfl | port
  · exact .inl (Percent.isPlain_of_mem_encode user)
  · exact .inr (.inl rfl)
  · exact .inl (Percent.isPlain_of_mem_encode password)
  · exact .inr (.inr rfl)
  · exact .inl (isPlain_of_isHostChar (target.host_chars c host))
  · exact .inr (.inl rfl)
  · exact .inl (isPlain_of_mem_digits port)

theorem authority_plain : ∀ c ∈ target.authority, Uri.isPlainAuthority c = true := by
  intro c member
  rcases mem_authority member with plain | rfl | rfl
  · have different : ∀ special ∈ ['/', '?', '#', '[', ']'], c ≠ special := by
      rintro special listed rfl
      have none : ['/', '?', '#', '[', ']'].all (!Percent.isPlain ·) = true := by decide
      have impossible := List.all_eq_true.1 none c listed
      rw [plain] at impossible
      cases impossible
    simp [Uri.isPlainAuthority, Uri.endsAuthority, different, Percent.toNat_lt_of_isPlain plain]
  · rfl
  · rfl

/-- The characters behind the scheme of a URI are plain but for its delimiters. -/
theorem mem_behind {c : Char} (member : c ∈ target.authority ++ '/' :: target.database.toList
      ++ Uri.withQuery (some (Uri.writtenQuery target.fields))) :
    Percent.isPlain c = true ∨ c ∈ [':', '@', '/', '?', '&', '='] := by
  simp only [List.mem_append, List.mem_cons, Uri.withQuery] at member
  rcases member with (inAuthority | rfl | inDatabase) | rfl | inQuery
  · rcases mem_authority inAuthority with plain | rfl | rfl
    · exact .inl plain
    · exact .inr (by simp)
    · exact .inr (by simp)
  · exact .inr (by simp)
  · exact .inl (isPlain_of_isDatabaseChar (target.database_chars c inDatabase))
  · exact .inr (by simp)
  · rcases Uri.mem_writtenQuery inQuery with plain | rfl | rfl
    · exact .inl plain
    · exact .inr (by simp)
    · exact .inr (by simp)

/-- Behind its scheme a URI has no number sign, and nothing that does not count. -/
theorem behind_kept {c : Char} (member : c ∈ target.authority ++ '/' :: target.database.toList
      ++ Uri.withQuery (some (Uri.writtenQuery target.fields))) :
    Uri.isIgnored c = false ∧ c ≠ '#' := by
  have different : ∀ special ∈ ['\t', '\r', '\n', '#'], c ≠ special := by
    rintro special listed rfl
    have notPlain : ['\t', '\r', '\n', '#'].all (!Percent.isPlain ·) = true := by decide
    have notDelimiter : ['\t', '\r', '\n', '#'].all
        (fun special => decide (special ∉ [':', '@', '/', '?', '&', '='])) = true := by
      decide
    rcases mem_behind member with plain | delimiter
    · have impossible := List.all_eq_true.1 notPlain c listed
      rw [plain] at impossible
      cases impossible
    · exact of_decide_eq_true (List.all_eq_true.1 notDelimiter c listed) delimiter
  simp [Uri.isIgnored, different]

/-- The host of a target is in lower case. -/
theorem lower_host : lower target.host.toList = target.host.toList := by
  apply lower_eq_self
  intro c member
  have allowed := target.host_chars c member
  refine ⟨Percent.toNat_lt_of_isPlain (isPlain_of_isHostChar allowed), ?_⟩
  simp only [isHostChar, Bool.or_eq_true, beq_iff_eq, isLower_iff, isDigit_iff] at allowed
  rw [isUpper_iff]
  rcases allowed with ((letter | digit) | rfl) | rfl
  · omega
  · omega
  · decide
  · decide

end Target

/-! ## Reading a URI -/

section Reading

variable (target : Target) (dryRun : Value)

/-- What is read of the parts of a target. -/
def writtenParts (target : Target) (query : Option (List Char)) : Uri :=
  ⟨lower target.scheme.toList, target.authority, '/' :: target.database.toList, query.getD []⟩

theorem split_target {query : Option (List Char)}
    (given : query = none ∨ query = some (Uri.writtenQuery target.fields)) :
    Uri.split (Uri.written target.scheme.toList target.authority
      ('/' :: target.database.toList) query) = .ok (writtenParts target query) := by
  have within : ∀ c ∈ target.authority ++ '/' :: target.database.toList ++ Uri.withQuery query,
      c ∈ target.authority ++ '/' :: target.database.toList
        ++ Uri.withQuery (some (Uri.writtenQuery target.fields)) := by
    intro c member
    rcases given with rfl | rfl
    · rw [Uri.withQuery, List.append_nil] at member
      exact List.mem_append_left _ member
    · exact member
  apply Uri.split_written target.is_scheme Target.authority_plain rfl
  · have inDatabase := target.not_mem_database (c := '?') (by decide)
    simp [inDatabase]
  · intro fragment
    have behind : '#' ∈ target.authority ++ '/' :: target.database.toList ++ Uri.withQuery query := by
      rw [List.append_assoc]
      exact List.mem_append_right _ fragment
    exact (Target.behind_kept (within _ behind)).2 rfl
  · intro c member
    exact (Target.behind_kept (within c member)).1

theorem textOrNull_of_ne {text : String} (ne : text ≠ "") : textOrNull text.toList = .text text := by
  have full : text.toList ≠ [] := by simpa using ne
  rw [textOrNull, if_neg (by simpa using full), String.ofList_toList]

theorem decoded_encode {text : String} (ne : text ≠ "") :
    decoded (some (Percent.encode text.toList)) = .text text := by
  rw [decoded, Option.getD_some, Percent.decode_encode, textOrNull_of_ne ne]

/-- The fields of a target, or none, give its options. -/
theorem firstFields_target :
    Uri.firstFields (Uri.fields (Uri.writtenQuery target.fields)) = target.fields := by
  apply Uri.firstFields_written
  · intro field member
    obtain ⟨option, inside, rfl⟩ := List.mem_map.1 member
    exact (target.options_ne option inside).2.1
  · have names : target.fields.map Uri.Field.name = target.options.map Prod.fst := by
      rw [Target.fields, List.map_map]
      rfl
    rw [names]
    exact target.options_distinct

theorem asksNative_target : asksNative target.fields = false := by
  have none : target.fields.find? (fun field => field.name == nativeField) = none := by
    rw [List.find?_eq_none]
    intro field member
    obtain ⟨option, inside, rfl⟩ := List.mem_map.1 member
    simpa using (target.options_ne option inside).2.2
  rw [asksNative, none]

theorem optionsOf_target :
    optionsOf target.fields = target.options.map fun option => (.text option.1, .text option.2) := by
  have all : target.fields.filter (fun field => field.name != nativeField) = target.fields := by
    rw [List.filter_eq_self]
    intro field member
    obtain ⟨option, inside, rfl⟩ := List.mem_map.1 member
    simpa using (target.options_ne option inside).2.2
  rw [optionsOf, all, Target.fields, List.map_map]
  rfl

/-- The host of a URI for a target is its host. -/
theorem host_target (uri : Uri) (authority : uri.authority = target.authority) :
    uri.host = target.host.toList := by
  have info := Uri.hostInfo_written uri authority target.delimiters_not_mem_host
  have noPercent : '%' ∉ target.host.toList := by
    intro member
    have impossible := target.host_chars '%' member
    revert impossible
    decide
  simp only [Uri.host, info, cut?_eq_none.2 noPercent, Target.lower_host]

theorem ofParts_server {engine : Engine} (server : engine ≠ .sqlite) (uri : Uri)
    (port : Option Nat) (dryRun : Value) :
    ofParts engine uri port dryRun =
      { engine := engine, host := textOrNull uri.host, port := port.map Int.ofNat
        user := decoded uri.userInfo.1, password := decoded uri.userInfo.2
        database := textOrNull (uri.path.dropWhile (· == '/'))
        native := .bool (asksNative (Uri.firstFields (Uri.fields uri.query)))
        connection := .null, dryRun := dryRun
        options := .map (optionsOf (Uri.firstFields (Uri.fields uri.query))) } := by
  cases engine with
  | postgres => rfl
  | mysql => rfl
  | sqlite => exact absurd rfl server

/-- The parts of a target give its configuration, if its options are those of the query. -/
theorem ofParts_target {query : Option (List Char)}
    (fields : Uri.firstFields (Uri.fields (query.getD [])) = target.fields) :
    ofParts target.engine (writtenParts target query) (some target.port) dryRun
      = target.config dryRun := by
  have user := Uri.userInfo_written (writtenParts target query) rfl
    (Percent.not_mem_encode (by decide) _) (target.not_mem_host (by decide))
  have host := host_target target (writtenParts target query) rfl
  have path : ('/' :: target.database.toList).dropWhile (· == '/') = target.database.toList := by
    obtain ⟨c, rest, database⟩ := List.exists_cons_of_ne_nil
      (l := target.database.toList) (by simpa using target.database_ne)
    have notSlash : c ≠ '/' := by
      rintro rfl
      have absent := target.not_mem_database (c := '/') (by decide)
      rw [database] at absent
      exact absent List.mem_cons_self
    simp [database, notSlash]
  rw [ofParts_server target.server, user, host]
  simp only [writtenParts, fields, path, asksNative_target, optionsOf_target,
    decoded_encode target.user_ne, decoded_encode target.password_ne,
    textOrNull_of_ne target.host_ne, textOrNull_of_ne target.database_ne]
  rfl

/-- A text that is written with the parts of a target is read as its configuration. -/
theorem ofUri_written {text : String} {query : Option (List Char)}
    (given : query = none ∨ query = some (Uri.writtenQuery target.fields))
    (fields : Uri.firstFields (Uri.fields (query.getD [])) = target.fields)
    (written : text.toList = Uri.written target.scheme.toList target.authority
      ('/' :: target.database.toList) query) :
    ofUri text dryRun = .ok (target.config dryRun) := by
  have info := Uri.hostInfo_written (writtenParts target query) rfl target.delimiters_not_mem_host
  have port := Uri.port_written (writtenParts target query) (by rw [info]) target.port_le
  have read : parts text = .ok (writtenParts target query, some target.port) := by
    rw [parts, written, split_target target given]
    show (writtenParts target query).port.bind _ = _
    rw [port]
    rfl
  have engine : Engine.ofAlias? (String.ofList (writtenParts target query).scheme)
      = some target.engine := target.accepted
  simp only [ofUri, read, engine, ofParts_target target dryRun fields]

/-- **A URI for a server gives the configuration that was written into it**, with its options or,
if there are none, without a query. -/
theorem ofUri_server : ofUri target.uri dryRun = .ok (target.config dryRun) ∧
    (target.options = [] → ofUri target.location dryRun = .ok (target.config dryRun)) := by
  constructor
  · exact ofUri_written target dryRun (.inr rfl) (firstFields_target target) Target.toList_uri
  · intro none
    have noFields : target.fields = [] := by rw [Target.fields, none, List.map_nil]
    exact ofUri_written target dryRun (.inl rfl) (by rw [noFields]; rfl) Target.toList_location

end Reading

/-! ## SQLite -/

/-- Whether a character can be in the file of an SQLite URI. -/
def isFileChar (c : Char) : Bool :=
  c != '?' && c != '#' && !Uri.isIgnored c

/-- **The file of an SQLite URI is what follows its three slashes**, and the description of its
configuration is the URI. -/
theorem ofUri_file {file : String} (ne : file ≠ "") (chars : ∀ c ∈ file.toList, isFileChar c = true)
    (dryRun : Value) :
    ∃ config, ofUri ("sqlite:///" ++ file) dryRun = .ok config ∧ config.engine = .sqlite ∧
      config.database = .text file ∧ config.describe = "sqlite:///" ++ file := by
  have absent : ∀ c, isFileChar c = false → c ∉ file.toList := by
    intro c special member
    rw [chars c member] at special
    cases special
  have noMark := absent '?' (by decide)
  have noFragment := absent '#' (by decide)
  have written : ("sqlite:///" ++ file).toList
      = Uri.written "sqlite".toList [] ('/' :: file.toList) none := by
    simp [Uri.written, Uri.withQuery]
  have split : Uri.split ("sqlite:///" ++ file).toList
      = .ok ⟨"sqlite".toList, [], '/' :: file.toList, []⟩ := by
    rw [written, Uri.split_written (by decide) (by simp) rfl]
    · rfl
    · simp [noMark]
    · simp [Uri.withQuery, noFragment]
    · intro c member
      simp only [Uri.withQuery, List.nil_append, List.append_nil, List.mem_cons] at member
      rcases member with rfl | member
      · rfl
      · have allowed := chars c member
        simp only [isFileChar, Bool.and_eq_true, Bool.not_eq_true'] at allowed
        exact allowed.2
  have read : parts ("sqlite:///" ++ file)
      = .ok (⟨"sqlite".toList, [], '/' :: file.toList, []⟩, none) := by
    rw [parts, split]
    rfl
  have database : fileOfPath ('/' :: file.toList) = .text file := by
    have full : file.toList.isEmpty = false := by simpa using ne
    simp [fileOfPath, full]
  refine ⟨_, by rw [ofUri, read]; rfl, rfl, database, ?_⟩
  show "sqlite:///" ++ (fileOfPath ('/' :: file.toList)).display = _
  rw [database, Value.display_text]

/-- **A connection URI is read back.**  Every URI for a server, whatever its user, password and
options are, gives the configuration with exactly what was written into it; and every SQLite URI
gives the file that it names, and is its own description. -/
theorem written_uri_is_read_back :
    (∀ (target : Target) (dryRun : Value),
      ofUri target.uri dryRun = .ok (target.config dryRun) ∧
      (target.options = [] → ofUri target.location dryRun = .ok (target.config dryRun))) ∧
    (∀ (file : String) (dryRun : Value), file ≠ "" → (∀ c ∈ file.toList, isFileChar c = true) →
      ∃ config, ofUri ("sqlite:///" ++ file) dryRun = .ok config ∧ config.engine = .sqlite ∧
        config.database = .text file ∧ config.describe = "sqlite:///" ++ file) := by
  constructor
  · intro target dryRun
    exact ofUri_server target dryRun
  · intro file dryRun ne chars
    exact ofUri_file ne chars dryRun

/-- A target whose texts hold delimiters, a plus sign, and characters beyond ASCII. -/
def crowdedTarget : Target where
  engine := .postgres
  scheme := "PostgreSQL"
  user := "a:b@c/d"
  password := "50%+ é?#[😀]"
  host := "db-1.local"
  port := 0
  database := "App_1"
  options := [("ssl mode", "a&b=c+d"), ("é", "%41")]
  is_scheme := by decide
  accepted := by decide
  server := by decide
  user_ne := by decide
  password_ne := by decide
  host_ne := by decide
  host_chars := List.all_eq_true.1 (by decide)
  port_le := by decide
  database_ne := by decide
  database_chars := List.all_eq_true.1 (by decide)
  options_ne := by decide
  options_distinct := by decide

theorem written_uri_is_read_back_crowded :
    ofUri crowdedTarget.uri (.bool true) = .ok (crowdedTarget.config (.bool true)) ∧
      (∃ config, ofUri ("sqlite:///" ++ "/var/app [1].db") (.bool false) = .ok config ∧
        config.engine = .sqlite ∧ config.database = .text "/var/app [1].db" ∧
        config.describe = "sqlite:///" ++ "/var/app [1].db") :=
  ⟨(written_uri_is_read_back.1 crowdedTarget (.bool true)).1,
    written_uri_is_read_back.2 "/var/app [1].db" (.bool false) (by decide)
      (List.all_eq_true.1 (by decide))⟩

end SchemaChange.Config
