/-
# SchemaChange.Proofs.Masking.UriPassword — what a masked URI tells about its password

A URI names a user and a password before its host.  The pass for URIs replaces both, but shows
what stands before an equals sign, as the passes for keywords do with the keyword.  So a password
without an equals sign leaves no trace, and of any other the part before the sign can be read.

* `mask_uri` — a URI whose password has no keyword is masked by what is revealed of the
  password (`Frame.masked`).
* `mask_uri_starts` — what stands before an equals sign of a password is shown, whatever follows.
* `masked_uri_reveals_before_equals` — so two passwords that leave the same text agree on what
  stands before their first equals sign, and two without such a sign leave the same text.
-/
import SchemaChange.Proofs.Masking.Scan

set_option autoImplicit false

namespace SchemaChange.Masking

open SchemaChange.Text

/-- What stands around the password of a URI. -/
structure Frame where
  scheme : String
  user : String
  rest : String
  scheme_letters : ∀ c ∈ scheme.toList, c.isAlpha = true
  user_ne : user ≠ ""
  user_chars : ∀ c ∈ user.toList, isUserChar c = true ∧ c ≠ '='
  rest_unmarked : '@' ∉ rest.toList
  rest_keywordless : ∀ word ∈ ["password=", "pwd="], occurs word.toList rest.toList = false

/-- A password of a URI: it is not empty, and free of the at sign that ends it. -/
structure Password where
  text : String
  ne : text ≠ ""
  unmarked : '@' ∉ text.toList

/-- A URI with a password. -/
def Frame.uri (frame : Frame) (password : Password) : String :=
  frame.scheme ++ "://" ++ frame.user ++ ":" ++ password.text ++ "@" ++ frame.rest

namespace Password

/-- What stands before the first equals sign of a password, if it has one. -/
def revealed (password : Password) : Option (List Char) :=
  (cut? '=' password.text.toList).map Prod.fst

/-- Whether a password has the keyword of a password in it. -/
def hasKeyword (password : Password) : Bool :=
  ["password=", "pwd="].any fun word => occurs word.toList password.text.toList

variable {password : Password}

theorem toList_ne : password.text.toList ≠ [] := by
  simpa using password.ne

theorem revealed_eq_none : password.revealed = none ↔ '=' ∉ password.text.toList := by
  rw [revealed, Option.map_eq_none_iff, cut?_eq_none]

/-- A password without an equals sign has no keyword. -/
theorem keywordless_of_revealed (plain : password.revealed = none) : password.hasKeyword = false := by
  refine List.any_eq_false.2 fun word listed inside => revealed_eq_none.1 plain ?_
  have sign : '=' ∈ word.toList := by
    simp only [List.mem_cons, List.not_mem_nil, or_false] at listed
    rcases listed with rfl | rfl <;> decide
  exact (occurs_eq_true.1 inside).subset sign

theorem revealed_eq_some {shown : List Char} (reveals : password.revealed = some shown) :
    '=' ∉ shown ∧ '@' ∉ shown ∧ ∃ hidden, password.text.toList = shown ++ '=' :: hidden := by
  obtain ⟨⟨_, hidden⟩, cut, rfl⟩ := Option.map_eq_some_iff.1 reveals
  obtain ⟨whole, before⟩ := cut?_eq_some cut
  exact ⟨before, fun inside => password.unmarked (by rw [whole]; simp [inside]), hidden, whole⟩

end Password

namespace Frame

/-- A URI without its password, and with what is revealed of it in clear. -/
def masked (frame : Frame) : Option (List Char) → String
  | none => frame.scheme ++ "://***:***@" ++ frame.rest
  | some shown =>
    frame.scheme ++ "://" ++ frame.user ++ ":" ++ String.ofList shown ++ "=***" ++ frame.rest

variable (frame : Frame)

theorem not_mem_scheme {c : Char} (other : c.isAlpha = false) : c ∉ frame.scheme.toList :=
  not_mem_of_all frame.scheme_letters other

theorem user_toList_ne : frame.user.toList ≠ [] := by
  simpa using frame.user_ne

theorem equals_not_mem_user : '=' ∉ frame.user.toList :=
  fun inside => (frame.user_chars _ inside).2 rfl

theorem at_not_mem_user : '@' ∉ frame.user.toList :=
  fun inside => absurd (frame.user_chars _ inside).1 (by decide)

theorem userChars : ∀ c ∈ frame.user.toList, isUserChar c = true :=
  fun c inside => (frame.user_chars c inside).1

theorem toList_uri (password : Password) :
    (frame.uri password).toList = frame.scheme.toList ++
      ("://".toList ++ frame.user.toList ++ ':' :: password.text.toList ++ '@' :: frame.rest.toList) := by
  simp [uri]

/-- A keyword of a URI is in its password. -/
theorem keyword_not_infix {password : Password} (plain : password.hasKeyword = false)
    {word : String} (listed : word ∈ ["password=", "pwd="]) :
    ¬ word.toList <:+: (frame.uri password).toList := by
  have marks : '@' ∉ word.toList ∧ ':' ∉ word.toList ∧ '=' ∈ word.toList := by
    simp only [List.mem_cons, List.not_mem_nil, or_false] at listed
    rcases listed with rfl | rfl <;> decide
  intro inside
  have split : (frame.uri password).toList = (frame.scheme.toList ++ ("://".toList ++ frame.user.toList)
      ++ ':' :: password.text.toList) ++ '@' :: frame.rest.toList := by
    simp [toList_uri]
  rw [split] at inside
  rcases infix_of_append_cons marks.1 inside with inFront | inRest
  · rcases infix_of_append_cons marks.2.1 inFront with inUser | inPassword
    · have equals := inUser.subset marks.2.2
      have scheme := frame.not_mem_scheme (by decide : '='.isAlpha = false)
      simp [scheme, frame.equals_not_mem_user] at equals
    · have absent := List.any_eq_false.1 plain word listed
      exact absent (occurs_eq_true.2 inPassword)
  · have absent := frame.rest_keywordless word listed
    rw [occurs_eq_true.2 inRest] at absent
    cases absent

theorem maskFor_credentials (password : Password) :
    maskFor ("://".toList ++ frame.user.toList ++ ':' :: password.text.toList ++ ['@'])
      = match password.revealed with
        | none => "://***:***@".toList
        | some shown => "://".toList ++ frame.user.toList ++ ':' :: shown ++ "=***".toList := by
  cases h : password.revealed with
  | none =>
    have absent := Password.revealed_eq_none.1 h
    exact maskFor_plain (by simp [frame.equals_not_mem_user, absent])
  | some shown =>
    obtain ⟨before, -, hidden, whole⟩ := Password.revealed_eq_some h
    have split : "://".toList ++ frame.user.toList ++ ':' :: password.text.toList ++ ['@']
        = ("://".toList ++ frame.user.toList ++ ':' :: shown) ++ '=' :: (hidden ++ ['@']) := by
      simp [whole]
    rw [split]
    exact maskFor_equals (by simp [frame.equals_not_mem_user, before]) _

/-- **A URI is masked by what is revealed of its password**, if the password has no keyword. -/
theorem mask_uri {password : Password} (plain : password.hasKeyword = false) :
    mask (frame.uri password) = frame.masked password.revealed := by
  have listed : "password=" ∈ ["password=", "pwd="] ∧ "pwd=" ∈ ["password=", "pwd="] := by simp
  have noPassword : ¬ "password".toList ++ ['='] <:+: (frame.uri password).toList :=
    frame.keyword_not_infix plain listed.1
  have noPwd : ¬ "pwd".toList ++ ['='] <:+: (frame.uri password).toList :=
    frame.keyword_not_infix plain listed.2
  rw [← String.toList_inj, mask, String.toList_ofList, maskChars,
    keyword_scan_of_not_infix (by decide) noPassword, keyword_scan_of_not_infix (by decide) noPwd,
    toList_uri, credentials_scan_uri (frame.not_mem_scheme (by decide)) frame.user_toList_ne
      frame.userChars password.toList_ne password.unmarked,
    credentials_scan_of_not_mem frame.rest_unmarked, maskFor_credentials]
  cases password.revealed <;> simp [masked]

/-- What stands before an equals sign of a password is shown in clear. -/
theorem mask_uri_starts {password : Password} {shown : List Char}
    (reveals : password.revealed = some shown) :
    ∃ tail, (mask (frame.uri password)).toList =
      (frame.scheme.toList ++ ("://".toList ++ frame.user.toList ++ ':' :: shown)) ++ '=' :: tail := by
  obtain ⟨before, unmarked, hidden, whole⟩ := Password.revealed_eq_some reveals
  have frontPlain : '=' ∉ frame.scheme.toList ++ ("://".toList ++ frame.user.toList ++ ':' :: shown) := by
    simp [frame.not_mem_scheme (by decide : '='.isAlpha = false), frame.equals_not_mem_user, before]
  have split : (frame.uri password).toList
      = (frame.scheme.toList ++ ("://".toList ++ frame.user.toList ++ ':' :: shown))
        ++ '=' :: (hidden ++ '@' :: frame.rest.toList) := by
    simp [toList_uri, whole]
  -- the passes for keywords change nothing before the equals sign
  obtain ⟨afterFirst, first⟩ := keyword_scan_before_equals (by decide : '=' ∉ "password".toList)
    frontPlain (hidden ++ '@' :: frame.rest.toList)
  obtain ⟨tail, second⟩ := keyword_scan_before_equals (by decide : '=' ∉ "pwd".toList)
    frontPlain afterFirst
  rw [mask, String.toList_ofList, maskChars, split, first, second]
  -- and the pass for URIs shows the part before it, if an at sign is left to end its match
  cases marked : cut? '@' tail with
  | none =>
    have absent := cut?_eq_none.1 marked
    refine ⟨tail, credentials_scan_of_not_mem ?_⟩
    simp [frame.not_mem_scheme (by decide : '@'.isAlpha = false), frame.at_not_mem_user, unmarked, absent]
  | some halves =>
    obtain ⟨rfl, secretUnmarked⟩ := cut?_eq_some marked
    have split : (frame.scheme.toList ++ ("://".toList ++ frame.user.toList ++ ':' :: shown))
        ++ '=' :: (halves.1 ++ '@' :: halves.2) = frame.scheme.toList ++ ("://".toList ++ frame.user.toList
          ++ ':' :: (shown ++ '=' :: halves.1) ++ '@' :: halves.2) := by
      simp
    have secretUnmarked : '@' ∉ shown ++ '=' :: halves.1 := by simp [unmarked, secretUnmarked]
    rw [split, credentials_scan_uri (frame.not_mem_scheme (by decide)) frame.user_toList_ne
      frame.userChars (by simp) secretUnmarked]
    have matched : "://".toList ++ frame.user.toList ++ ':' :: (shown ++ '=' :: halves.1) ++ ['@']
        = ("://".toList ++ frame.user.toList ++ ':' :: shown) ++ '=' :: (halves.1 ++ ['@']) := by
      simp
    rw [matched, maskFor_equals (by simp [frame.equals_not_mem_user, before])]
    exact ⟨"***".toList ++ credentials.scan halves.2, by simp⟩

end Frame

variable (frame : Frame) {p q : Password}

/-- A password that shows nothing is not masked like one that shows its start. -/
theorem masked_none_ne {shown tail : List Char} (unmarked : '@' ∉ shown) (before : '=' ∉ shown) :
    (frame.masked none).toList ≠
      (frame.scheme.toList ++ ("://".toList ++ frame.user.toList ++ ':' :: shown)) ++ '=' :: tail := by
  intro same
  have same : "***".toList ++ ':' :: ("***@".toList ++ frame.rest.toList)
      = frame.user.toList ++ ':' :: (shown ++ '=' :: tail) := by
    simpa [Frame.masked] using same
  -- the user may be three stars, so the two texts are told apart behind it
  have userColon : ':' ∉ frame.user.toList := fun inside =>
    absurd (frame.userChars _ inside) (by decide)
  obtain ⟨-, behind⟩ := append_cons_inj (by decide) userColon same
  have firstMark := congrArg (List.find? fun c => c = '=' ∨ c = '@') behind.symm
  have noMark : shown.find? (fun c => c = '=' ∨ c = '@') = none := by
    rw [List.find?_eq_none]
    intro c inside
    have : c ≠ '=' ∧ c ≠ '@' := ⟨fun eq => before (eq ▸ inside), fun eq => unmarked (eq ▸ inside)⟩
    simp [this]
  rw [List.find?_append, noMark] at firstMark
  simp at firstMark

/-- A masked URI with an equals sign in its password is not one without. -/
theorem mask_uri_ne {shown : List Char} (plain : p.revealed = none) (reveals : q.revealed = some shown) :
    mask (frame.uri p) ≠ mask (frame.uri q) := by
  obtain ⟨before, unmarked, -⟩ := Password.revealed_eq_some reveals
  obtain ⟨tail, starts⟩ := frame.mask_uri_starts reveals
  intro same
  rw [← same, frame.mask_uri (Password.keywordless_of_revealed plain), plain] at starts
  exact masked_none_ne frame unmarked before starts

/-- Two passwords that a masked URI does not tell apart agree on what is revealed of them. -/
theorem revealed_eq_of_mask_eq (same : mask (frame.uri p) = mask (frame.uri q)) :
    p.revealed = q.revealed := by
  cases hp : p.revealed with
  | none =>
    cases hq : q.revealed with
    | none => rfl
    | some shown => exact absurd same (mask_uri_ne frame hp hq)
  | some shown =>
    cases hq : q.revealed with
    | none => exact absurd same.symm (mask_uri_ne frame hq hp)
    | some other =>
      obtain ⟨tail, starts⟩ := frame.mask_uri_starts hp
      obtain ⟨otherTail, otherStarts⟩ := frame.mask_uri_starts hq
      have shared : shown ++ '=' :: tail = other ++ '=' :: otherTail := by
        rw [same, otherStarts] at starts
        simpa using starts.symm
      obtain ⟨rfl, -⟩ := append_cons_inj (Password.revealed_eq_some hp).1
        (Password.revealed_eq_some hq).1 shared
      rfl

/-- **A masked URI tells of its password what stands before the first equals sign, and nothing
without such a sign.**  If neither of two passwords has a keyword, it tells no more. -/
theorem masked_uri_reveals_before_equals (frame : Frame) (p q : Password) :
    ('=' ∉ p.text.toList → '=' ∉ q.text.toList →
      mask (frame.uri p) = mask (frame.uri q)
        ∧ mask (frame.uri p) = frame.scheme ++ "://***:***@" ++ frame.rest)
      ∧ (p.hasKeyword = false → q.hasKeyword = false →
        (mask (frame.uri p) = mask (frame.uri q) ↔ p.revealed = q.revealed))
      ∧ (mask (frame.uri p) = mask (frame.uri q) → p.revealed = q.revealed) := by
  refine ⟨fun unsigned otherUnsigned => ?_, fun keywordless otherKeywordless => ?_,
    revealed_eq_of_mask_eq frame⟩
  · have plain := Password.revealed_eq_none.2 unsigned
    have otherPlain := Password.revealed_eq_none.2 otherUnsigned
    rw [frame.mask_uri (Password.keywordless_of_revealed plain),
      frame.mask_uri (Password.keywordless_of_revealed otherPlain), plain, otherPlain]
    exact ⟨rfl, rfl⟩
  · refine ⟨revealed_eq_of_mask_eq frame, fun reveal => ?_⟩
    rw [frame.mask_uri keywordless, frame.mask_uri otherKeywordless, reveal]

/-- The frame of the URI of a database on a host. -/
def hostFrame : Frame :=
  ⟨"pg", "u", "h/d", by simp, by decide, by simp [isUserChar], by decide, by decide⟩

theorem masked_uri_reveals_before_equals_host :
    mask "pg://u:a=b@h/d" = mask "pg://u:a=c@h/d" ∧ mask "pg://u:b@h/d" = "pg://***:***@h/d" := by
  have signs := masked_uri_reveals_before_equals hostFrame ⟨"a=b", by decide, by decide⟩
    ⟨"a=c", by decide, by decide⟩
  have plain := masked_uri_reveals_before_equals hostFrame ⟨"b", by decide, by decide⟩
    ⟨"c", by decide, by decide⟩
  exact ⟨(signs.2.1 (by decide) (by decide)).2 (by decide), (plain.1 (by decide) (by decide)).2⟩

/-- An equals sign in a password ends the part that is masked. -/
theorem equals_sign_reveals_password :
    mask "pg://u:a=b@h/d" = "pg://u:a=***h/d" ∧ mask "pg://u:c@h/d" = "pg://***:***@h/d"
      ∧ mask "pg://u:a=b@h/d" ≠ mask "pg://u:c@h/d" := by
  let signed : Password := ⟨"a=b", by decide, by decide⟩
  let plain : Password := ⟨"c", by decide, by decide⟩
  have starts : mask "pg://u:a=b@h/d" = "pg://u:a=***h/d" := by
    have masked := hostFrame.mask_uri (by decide : signed.hasKeyword = false)
    simpa [hostFrame, signed, Frame.uri, Frame.masked, Password.revealed, cut?] using masked
  have hides : mask "pg://u:c@h/d" = "pg://***:***@h/d" := by
    have masked := hostFrame.mask_uri (by decide : plain.hasKeyword = false)
    simpa [hostFrame, plain, Frame.uri, Frame.masked, Password.revealed, cut?] using masked
  exact ⟨starts, hides, by rw [starts, hides]; decide⟩

end SchemaChange.Masking
