/-
# SchemaChange.Proofs.Config.Rejected — what the report about a rejected URI tells of its password

A URI that cannot be taken apart is reported with its user and password masked, and with what is
wrong with it.  Of the faults all but one quote nothing that stands before the host.  The one that
does, a character of the authority that could be taken for a delimiter, quotes the authority as a
whole: then the password stands in the report.

* `mask_uri` — the URI is masked as a whole.
* `parts_cases` — a fault tells of the rest of the URI only, or quotes the authority.
* `rejected_uri_hides_password_unless_quoted` — so the report gives no character of the password
  away, unless the authority is quoted, in which case it gives the whole password away.
-/
import SchemaChange.Config.Locator
import SchemaChange.Proofs.Masking.Scan
import SchemaChange.Proofs.Uri.Faults
import SchemaChange.Proofs.Uri.Written

set_option autoImplicit false

namespace SchemaChange.Config

open SchemaChange.Text
open SchemaChange.Uri (isWorded isScheme isIgnored endsAuthority hostPart)

/-- Whether a character can be in the user or the password of a URI without an end to it. -/
def isSecretPart (c : Char) : Bool :=
  c != ':' && c != '/' && c != '?' && c != '#' && c != '@' && c != '='

/-- A URI for an engine with a user and a password. -/
structure Guarded where
  scheme : String
  engine : Engine
  user : String
  password : String
  rest : String
  is_scheme : isScheme scheme.toList = true
  accepted : Engine.ofAlias? (String.ofList (lower scheme.toList)) = some engine
  user_ne : user ≠ ""
  user_chars : ∀ c ∈ user.toList, isSecretPart c = true
  password_ne : password ≠ ""
  password_chars : ∀ c ∈ password.toList, isSecretPart c = true
  rest_chars : ∀ c ∈ rest.toList, c ≠ '@' ∧ c ≠ '='

/-- What counts of a text in a URI. -/
def counted (text : String) : List Char :=
  text.toList.filter (!isIgnored ·)

namespace Guarded

/-- The URI. -/
def uri (guarded : Guarded) : String :=
  guarded.scheme ++ "://" ++ guarded.user ++ ":" ++ guarded.password ++ "@" ++ guarded.rest

/-- The host with the port. -/
def place (guarded : Guarded) : List Char :=
  (counted guarded.rest).takeWhile (!endsAuthority ·)

/-- The authority. -/
def authority (guarded : Guarded) : List Char :=
  counted guarded.user ++ ':' :: counted guarded.password ++ '@' :: guarded.place

/-- The authority is quoted: a character of it could be taken for a delimiter, and nothing is wrong
with its brackets. -/
def Quoted (guarded : Guarded) : Prop :=
  Uri.checkBrackets guarded.authority = .ok ()
    ∧ ∃ c ∈ guarded.authority, c.toNat ∈ Uri.delimiterLookalikes

/-- A character is in the password, and nowhere else in the URI. -/
structure OnlyInPassword (guarded : Guarded) (c : Char) : Prop where
  password : c ∈ guarded.password.toList
  before : c ∉ (guarded.scheme ++ "://" ++ guarded.user ++ ":").toList
  behind : c ∉ ("@" ++ guarded.rest).toList

/-- What stands behind the at sign can be quoted as it is. -/
def PlainRest (guarded : Guarded) : Prop :=
  guarded.rest.toList.all isPlainlyQuoted = true ∧ guarded.rest.length ≤ Numeral.maxDigits

variable (guarded : Guarded)

/-! ## The masked URI -/

theorem scheme_chars : ∀ c ∈ guarded.scheme.toList, Uri.isSchemeChar c = true := by
  obtain ⟨-, -, -, -, chars⟩ := Uri.scheme_cases guarded.is_scheme
  exact chars

theorem not_mem_scheme {c : Char} (other : Uri.isSchemeChar c = false) :
    c ∉ guarded.scheme.toList :=
  not_mem_of_all guarded.scheme_chars other

theorem not_mem_user {c : Char} (other : isSecretPart c = false) : c ∉ guarded.user.toList :=
  not_mem_of_all guarded.user_chars other

theorem not_mem_password {c : Char} (other : isSecretPart c = false) :
    c ∉ guarded.password.toList :=
  not_mem_of_all guarded.password_chars other

theorem toList_uri : guarded.uri.toList = guarded.scheme.toList
    ++ ("://".toList ++ guarded.user.toList ++ ':' :: guarded.password.toList
      ++ '@' :: guarded.rest.toList) := by
  simp [uri]

theorem equals_not_mem_uri : '=' ∉ guarded.uri.toList := by
  have inScheme := guarded.not_mem_scheme (c := '=') (by decide)
  have inUser := guarded.not_mem_user (c := '=') (by decide)
  have inPassword := guarded.not_mem_password (c := '=') (by decide)
  have inRest : '=' ∉ guarded.rest.toList := fun member => (guarded.rest_chars _ member).2 rfl
  rw [toList_uri]
  simp [inScheme, inUser, inPassword, inRest]

/-- **The URI is masked as a whole.** -/
theorem mask_uri :
    Masking.mask guarded.uri = guarded.scheme ++ "://***:***@" ++ guarded.rest := by
  have noKeyword (word : List Char) : ¬ word ++ ['='] <:+: guarded.uri.toList := by
    intro inside
    exact guarded.equals_not_mem_uri (inside.subset (by simp))
  have userChars : ∀ c ∈ guarded.user.toList, Masking.isUserChar c = true := by
    intro c member
    have allowed := guarded.user_chars c member
    simp only [isSecretPart, Bool.and_eq_true] at allowed
    simp [Masking.isUserChar, allowed]
  have user_ne : guarded.user.toList ≠ [] := by simpa using guarded.user_ne
  have password_ne : guarded.password.toList ≠ [] := by simpa using guarded.password_ne
  have restMark : '@' ∉ guarded.rest.toList := fun member => (guarded.rest_chars _ member).1 rfl
  have matched : '=' ∉ "://".toList ++ guarded.user.toList ++ ':' :: guarded.password.toList ++ ['@'] := by
    simp [guarded.not_mem_user (c := '=') (by decide),
      guarded.not_mem_password (c := '=') (by decide)]
  rw [← String.toList_inj, Masking.mask, String.toList_ofList, Masking.maskChars,
    Masking.keyword_scan_of_not_infix (by decide) (noKeyword _),
    Masking.keyword_scan_of_not_infix (by decide) (noKeyword _), toList_uri,
    Masking.credentials_scan_uri (guarded.not_mem_scheme (by decide)) user_ne userChars password_ne
      (guarded.not_mem_password (by decide)),
    Masking.credentials_scan_of_not_mem restMark, Masking.maskFor_plain matched]
  simp

/-! ## Taking the URI apart -/

/-- What counts of the URI. -/
theorem counted_uri :
    (guarded.uri.toList.dropWhile Uri.isLeadingIgnored).filter (!isIgnored ·)
      = guarded.scheme.toList ++ ':' :: '/' :: '/' ::
          (counted guarded.user ++ ':' :: counted guarded.password ++ '@' :: counted guarded.rest) := by
  obtain ⟨c, rest, starts, letter, chars⟩ := Uri.scheme_cases guarded.is_scheme
  have kept : guarded.scheme.toList.filter (!isIgnored ·) = guarded.scheme.toList := by
    refine List.filter_eq_self.2 fun other member => ?_
    simp [Uri.isIgnored_of_isSchemeChar (chars other member)]
  have whole : guarded.uri.toList.dropWhile Uri.isLeadingIgnored = guarded.uri.toList := by
    rw [toList_uri, starts, List.cons_append,
      List.dropWhile_cons_of_neg (by simp [Uri.isLeadingIgnored_of_isAlpha letter])]
  rw [whole, toList_uri, List.filter_append, kept]
  simp [counted, isIgnored]

theorem splitAuthority_uri : ∃ behind,
    Uri.splitAuthority ('/' :: '/' ::
        (counted guarded.user ++ ':' :: counted guarded.password ++ '@' :: counted guarded.rest))
      = (guarded.authority, behind) := by
  have inside : ∀ c ∈ counted guarded.user ++ ':' :: counted guarded.password ++ ['@'],
      (!endsAuthority c) = true := by
    intro c member
    have named (text : String) (chars : ∀ c ∈ text.toList, isSecretPart c = true)
        (own : c ∈ counted text) : (!endsAuthority c) = true := by
      have allowed := chars c (List.mem_filter.1 own).1
      simp only [isSecretPart, Bool.and_eq_true, bne_iff_ne] at allowed
      simp [endsAuthority, allowed]
    simp only [List.mem_append, List.mem_cons, List.not_mem_nil, or_false] at member
    rcases member with (own | rfl | own) | rfl
    · exact named guarded.user guarded.user_chars own
    · rfl
    · exact named guarded.password guarded.password_chars own
    · rfl
  have cut : counted guarded.user ++ ':' :: counted guarded.password ++ '@' :: counted guarded.rest
      = (counted guarded.user ++ ':' :: counted guarded.password ++ ['@']) ++ counted guarded.rest := by
    simp
  rw [cut, Uri.splitAuthority, List.takeWhile_append_of_pos inside]
  refine ⟨_, Prod.ext ?_ rfl⟩
  simp [authority, place]

/-- Nothing but two checks stands between a URI and its parts. -/
theorem split_uri : ∃ path query, Uri.split guarded.uri.toList = (do
    Uri.checkBrackets guarded.authority
    Uri.checkLookalikes guarded.authority
    .ok ⟨lower guarded.scheme.toList, guarded.authority, path, query⟩) := by
  obtain ⟨behind, cut⟩ := guarded.splitAuthority_uri
  refine ⟨(Uri.splitAt '?' (Uri.splitAt '#' behind).1).1,
    (Uri.splitAt '?' (Uri.splitAt '#' behind).1).2, ?_⟩
  rw [Uri.split, counted_uri]
  simp only [Uri.splitScheme_written guarded.is_scheme, cut]

theorem hostPart_authority : hostPart guarded.authority = guarded.place := by
  have unmarked : '@' ∉ guarded.place := by
    intro member
    have own := (List.mem_filter.1 ((List.takeWhile_sublist _).subset member)).1
    exact (guarded.rest_chars '@' own).1 rfl
  rw [hostPart, authority, cutLast?_append unmarked]

theorem place_sublist : guarded.place.Sublist guarded.rest.toList :=
  (List.takeWhile_sublist _).trans List.filter_sublist

/-- The URI is taken apart, or its fault tells of its rest only, or it is that of an authority that
is quoted. -/
theorem parts_cases :
    (∃ split port, parts guarded.uri = .ok (split, port) ∧ ¬ guarded.Quoted
      ∧ split.scheme = lower guarded.scheme.toList)
    ∨ (∃ fault, parts guarded.uri = .error fault ∧ ¬ guarded.Quoted
      ∧ fault.Within guarded.rest.toList)
    ∨ (parts guarded.uri = .error (.hiddenDelimiter guarded.authority) ∧ guarded.Quoted) := by
  have atPlace {fault : Uri.Fault} (within : fault.Within (hostPart guarded.authority)) :
      fault.Within guarded.rest.toList :=
    (guarded.hostPart_authority ▸ within).of_sublist guarded.place_sublist
  obtain ⟨path, query, split⟩ := guarded.split_uri
  rw [parts, split]
  cases brackets : Uri.checkBrackets guarded.authority with
  | error fault =>
      refine .inr (.inl ⟨fault, rfl, fun quoted => ?_, atPlace (Uri.checkBrackets_within brackets)⟩)
      rw [quoted.1] at brackets
      cases brackets
  | ok _ =>
      by_cases alike : ∃ c ∈ guarded.authority, c.toNat ∈ Uri.delimiterLookalikes
      · have hidden : Uri.checkLookalikes guarded.authority
            = .error (.hiddenDelimiter guarded.authority) := by
          rw [Uri.checkLookalikes, if_pos]
          simpa using alike
        rw [hidden]
        exact .inr (.inr ⟨rfl, brackets, alike⟩)
      · have plain : Uri.checkLookalikes guarded.authority = .ok () := by
          rw [Uri.checkLookalikes, if_neg]
          simpa using alike
        have unquoted : ¬ guarded.Quoted := fun quoted => alike quoted.2
        rw [plain]
        cases port : Uri.port ⟨lower guarded.scheme.toList, guarded.authority, path, query⟩ with
        | ok found =>
            refine .inl ⟨⟨lower guarded.scheme.toList, guarded.authority, path, query⟩, found, ?_,
              unquoted, rfl⟩
            show (Uri.port _ >>= _) = _
            rw [port]
            rfl
        | error fault =>
            refine .inr (.inl ⟨fault, ?_, unquoted, atPlace (Uri.port_within port)⟩)
            show (Uri.port _ >>= _) = _
            rw [port]
            rfl

theorem ofUri_of_parts_error {fault : Uri.Fault} (faulty : parts guarded.uri = .error fault)
    (dryRun : Value) :
    ofUri guarded.uri dryRun = .error (.report (invalidUri guarded.uri fault)) := by
  rw [ofUri, faulty]
  rfl

theorem ofUri_of_parts_ok {split : Uri} {port : Option Nat}
    (taken : parts guarded.uri = .ok (split, port)) (scheme : split.scheme = lower guarded.scheme.toList)
    (dryRun : Value) : ∃ config, ofUri guarded.uri dryRun = .ok config := by
  simp only [ofUri, taken, scheme, guarded.accepted]
  exact ⟨_, rfl⟩

theorem message_invalidUri (fault : Uri.Fault) :
    (invalidUri guarded.uri fault).message = "Invalid connection URI "
      ++ (guarded.scheme ++ "://***:***@" ++ guarded.rest) ++ ": " ++ fault.message := by
  rw [← mask_uri]
  rfl

/-! ## The report -/

/-- A fault that tells of the rest only adds no character of the password. -/
theorem not_mem_message {fault : Uri.Fault} (within : fault.Within guarded.rest.toList) {c : Char}
    (only : guarded.OnlyInPassword c) (unworded : isWorded c = false)
    (escapes : isEscapeChar c = false ∨ guarded.PlainRest) :
    c ∉ fault.message.toList := by
  have notRest : c ∉ guarded.rest.toList := by
    intro member
    exact only.behind (by simp [member])
  have notQuoted : c ∉ fault.quotes := fun member => notRest (within.quotes.subset member)
  have notQuote : c ≠ '\'' := by
    rintro rfl
    have listed : "netloc '" ∈ Uri.wordings := by decide
    rw [Uri.isWorded_of_mem listed (by decide)] at unworded
    cases unworded
  intro member
  rcases Uri.Fault.mem_message member with worded | shown
  · rw [worded] at unworded
    cases unworded
  · rcases escapes with unescaped | ⟨plain, short⟩
    · rcases Uri.Fault.mem_shown shown with quote | escape | own
      · exact notQuote quote
      · rw [escape] at unescaped
        cases unescaped
      · exact notQuoted own
    · have plainQuotes : fault.quotes.all isPlainlyQuoted = true :=
        List.all_eq_true.2 fun own inside =>
          List.all_eq_true.1 plain own (within.quotes.subset inside)
      have uncounted : ∀ count, fault ≠ .longPort count := by
        intro count same
        have long := within.count count same
        rw [String.length_toList] at long
        omega
      rcases Uri.Fault.mem_shown_plain plainQuotes uncounted shown with quote | own
      · exact notQuote quote
      · exact notQuoted own

/-- The fault of a quoted authority has the whole password in its message. -/
theorem password_infix_message :
    counted guarded.password
      <:+: (invalidUri guarded.uri (.hiddenDelimiter guarded.authority)).message.toList := by
  have inAuthority : counted guarded.password <:+: guarded.authority :=
    ⟨counted guarded.user ++ [':'], '@' :: guarded.place, by simp [authority]⟩
  obtain ⟨before, -, after, -, same⟩ := (Uri.Fault.hiddenDelimiter guarded.authority).message_eq
  have inFault : guarded.authority
      <:+: (Uri.Fault.hiddenDelimiter guarded.authority).message.toList := by
    rw [same, String.toList_append, String.toList_append, String.toList_ofList]
    exact ⟨before.toList, after.toList, rfl⟩
  rw [message_invalidUri, String.toList_append]
  exact (inAuthority.trans inFault).trans (List.suffix_append _ _).isInfix

end Guarded

/-- **The report about a rejected URI gives no character of the password away, unless it quotes the
authority, and then it gives away the whole password.**  Not counted are the characters of fixed
texts and, where the rest of the URI needs them, those of escapes and numbers. -/
theorem rejected_uri_hides_password_unless_quoted (guarded : Guarded) (dryRun : Value) :
    (∀ failure, ofUri guarded.uri dryRun = .error failure → ¬ guarded.Quoted →
      ∀ c, guarded.OnlyInPassword c → isWorded c = false →
        isEscapeChar c = false ∨ guarded.PlainRest → c ∉ failure.message.toList)
    ∧ (guarded.Quoted → ∃ failure, ofUri guarded.uri dryRun = .error failure
      ∧ counted guarded.password <:+: failure.message.toList) := by
  rcases guarded.parts_cases with ⟨split, port, taken, unquoted, scheme⟩
    | ⟨fault, faulty, unquoted, within⟩ | ⟨faulty, quoted⟩
  · obtain ⟨config, read⟩ := guarded.ofUri_of_parts_ok taken scheme dryRun
    refine ⟨fun failure rejected => ?_, fun quoted => absurd quoted unquoted⟩
    rw [read] at rejected
    cases rejected
  · refine ⟨fun failure rejected _ c only unworded escapes => ?_,
      fun quoted => absurd quoted unquoted⟩
    rw [guarded.ofUri_of_parts_error faulty] at rejected
    cases rejected
    have masked (text : String) (listed : text ∈ Uri.wordings) : c ∉ text.toList := by
      intro member
      rw [Uri.isWorded_of_mem listed member] at unworded
      cases unworded
    have notScheme : c ∉ guarded.scheme.toList := by
      intro member
      exact only.before (by simp [member])
    have notRest : c ∉ guarded.rest.toList := by
      intro member
      exact only.behind (by simp [member])
    show c ∉ (invalidUri guarded.uri fault).message.toList
    rw [guarded.message_invalidUri]
    simp only [String.toList_append, List.mem_append, not_or]
    exact ⟨⟨⟨masked _ (by decide), ⟨notScheme, masked _ (by decide)⟩, notRest⟩,
      masked _ (by decide)⟩, guarded.not_mem_message within only unworded escapes⟩
  · refine ⟨fun _ _ unquoted => absurd quoted unquoted, fun _ => ?_⟩
    exact ⟨_, guarded.ofUri_of_parts_error faulty dryRun, guarded.password_infix_message⟩

/-- A URI whose port is no number. -/
def wrongPort : Guarded :=
  ⟨"pg", .postgres, "me", "Z", "h:x/d", by decide, by decide +kernel, by decide,
    by simp [isSecretPart], by decide, by simp [isSecretPart], by simp⟩

/-- A URI whose password has a character that could be taken for a delimiter. -/
def alikePassword : Guarded :=
  { wrongPort with
    password := "Z℀"
    rest := "h/d"
    password_ne := by decide
    password_chars := by simp [isSecretPart]
    rest_chars := by simp }

theorem isWorded_capital_z : isWorded 'Z' = false := by
  decide +kernel

theorem rejected_uri_hides_password_unless_quoted_port :
    (∃ failure, ofUri "pg://me:Z@h:x/d" (.bool false) = .error failure
      ∧ 'Z' ∉ failure.message.toList)
    ∧ ∃ failure, ofUri "pg://me:Z℀@h/d" (.bool false) = .error failure
      ∧ ['Z', '℀'] <:+: failure.message.toList := by
  have rejected : ofUri "pg://me:Z@h:x/d" (.bool false)
      = .error (.report (invalidUri "pg://me:Z@h:x/d" (.badPort ['x']))) := by rfl
  have unquoted : ¬ wrongPort.Quoted := by
    rintro ⟨-, c, member, alike⟩
    have none : wrongPort.authority.all (fun c => decide (c.toNat ∉ Uri.delimiterLookalikes)) = true := by
      decide
    exact of_decide_eq_true (List.all_eq_true.1 none c member) alike
  have only : wrongPort.OnlyInPassword 'Z' := ⟨by decide, by decide, by decide⟩
  have quoted : alikePassword.Quoted := ⟨rfl, '℀', by decide, by decide⟩
  refine ⟨⟨_, rejected, ?_⟩, ?_⟩
  · exact (rejected_uri_hides_password_unless_quoted wrongPort (.bool false)).1 _ rejected unquoted
      'Z' only isWorded_capital_z (.inl (by decide))
  · exact (rejected_uri_hides_password_unless_quoted alikePassword (.bool false)).2 quoted

/-- A report that gives a password away: the letter is in the password only, and in no fixed text. -/
theorem lookalike_tells_password :
    ofUri "pg://me:Z℀@h/d" (.bool false) = .error (.report (.configuration
        ("Invalid connection URI pg://***:***@h/d: "
          ++ "netloc 'me:Z℀@h' contains invalid characters under NFKC normalization") .null))
      ∧ alikePassword.OnlyInPassword 'Z' ∧ isWorded 'Z' = false ∧ isEscapeChar 'Z' = false := by
  refine ⟨?_, ⟨by decide, by decide, by decide⟩, isWorded_capital_z, by decide⟩
  have faulty : parts alikePassword.uri = .error (.hiddenDelimiter alikePassword.authority) := by rfl
  have masked := alikePassword.mask_uri
  have read := alikePassword.ofUri_of_parts_error faulty (.bool false)
  rw [invalidUri, masked] at read
  exact read

end SchemaChange.Config
