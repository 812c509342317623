/-
# SchemaChange.Proofs.Masking.Scan — what a pass over a connection string changes

A pass copies a text up to its leftmost match, shows the match in its own way and goes on
behind it.

* `scan_append`, `scan_of_match` — the two ways in which a pass goes on.
* `keyword_scan_of_not_infix` — a pass for a keyword changes no text without the keyword.
* `keyword_scan_before_equals` — and none changes what stands before the first equals sign.
* `credentials_scan_uri` — the pass for URIs replaces the user and the password of one.
-/
import SchemaChange.Masking

set_option autoImplicit false

namespace SchemaChange.Masking

open SchemaChange.Text

/-! ## Passes -/

section Passes

variable {pattern : Pattern}

theorem scan_of_match {text : List Char} {found : Match}
    (matched : (pattern text).map Subtype.val = some found) :
    pattern.scan text = found.shown ++ pattern.scan found.rest := by
  obtain ⟨⟨_, shorter⟩, reads, rfl⟩ := Option.map_eq_some_iff.1 matched
  cases text with
  | nil => simp at shorter
  | cons c text => rw [Pattern.scan, reads]

theorem scan_cons {c : Char} {text : List Char} (unmatched : pattern (c :: text) = none) :
    pattern.scan (c :: text) = c :: pattern.scan text := by
  rw [Pattern.scan, unmatched]

/-- What no match starts in is copied. -/
theorem scan_append (front text : List Char)
    (unmatched : ∀ tail, tail <:+ front → tail ≠ [] → pattern (tail ++ text) = none) :
    pattern.scan (front ++ text) = front ++ pattern.scan text := by
  induction front with
  | nil => rfl
  | cons c front ih =>
    have starts : pattern (c :: (front ++ text)) = none :=
      unmatched (c :: front) (List.suffix_refl _) (List.cons_ne_nil _ _)
    rw [List.cons_append, scan_cons starts, List.cons_append,
      ih fun tail ends => unmatched tail (ends.trans (List.suffix_cons c front))]

end Passes

/-! ## Replacements -/

theorem maskFor_equals {name : List Char} (plain : '=' ∉ name) (value : List Char) :
    maskFor (name ++ '=' :: value) = name ++ "=***".toList := by
  simp only [maskFor, cut?_append plain]

theorem maskFor_plain {matched : List Char} (plain : '=' ∉ matched) :
    maskFor matched = "://***:***@".toList := by
  simp only [maskFor, cut?_eq_none.2 plain]

/-! ## Keywords -/

section Keywords

variable {word : List Char}

/-- A keyword is read with its equals sign and a value that is not empty. -/
theorem keyword_val (word text : List Char) :
    (keyword word text).map Subtype.val = (after? (word ++ ['=']) text).bind fun value =>
      if (value.takeWhile isSecretChar).isEmpty then none
      else some ⟨maskFor (word ++ '=' :: value.takeWhile isSecretChar),
        value.dropWhile isSecretChar⟩ := by
  simp only [keyword]
  split
  · rename_i unread
    rw [unread]; rfl
  · rename_i value reads
    simp only [reads, Option.bind_some]
    split <;> rfl

/-- A match of a keyword starts with it and shows a mask for its value. -/
theorem keyword_eq_some {text : List Char} (plain : '=' ∉ word) {found : Match}
    (matched : (keyword word text).map Subtype.val = some found) :
    ∃ value, text = word ++ '=' :: value ∧ found.shown = word ++ "=***".toList := by
  rw [keyword_val, Option.bind_eq_some_iff] at matched
  obtain ⟨value, reads, matched⟩ := matched
  have whole : text = word ++ '=' :: value := by simpa using after?_eq_some.1 reads
  split at matched
  · cases matched
  · cases matched
    exact ⟨value, whole, maskFor_equals plain _⟩

/-- A text without a keyword stays as it is. -/
theorem keyword_scan_of_not_infix {text : List Char} (plain : '=' ∉ word)
    (absent : ¬ word ++ ['='] <:+: text) : (keyword word).scan text = text := by
  refine scan_of_no_match fun suffix ends => ?_
  cases h : keyword word suffix with
  | none => rfl
  | some found =>
    obtain ⟨value, rfl, -⟩ := keyword_eq_some plain (by rw [h, Option.map_some])
    have starts : word ++ ['='] <+: word ++ '=' :: value := ⟨value, by simp⟩
    exact absurd (starts.isInfix.trans ends.isInfix) absent

/-- What stands before the first equals sign of a text stays as it is, and so does the sign. -/
theorem keyword_scan_before_equals (plain : '=' ∉ word) {front : List Char} (before : '=' ∉ front)
    (text : List Char) :
    ∃ tail, (keyword word).scan (front ++ '=' :: text) = front ++ '=' :: tail := by
  -- the first equals sign of a match is the one behind the keyword, so a match at the start shows
  -- all that stands before the first sign of the text
  have atStart {front : List Char} (before : '=' ∉ front)
      {found : { found : Match // found.rest.length < (front ++ '=' :: text).length }}
      (matched : keyword word (front ++ '=' :: text) = some found) :
      ∃ tail, (keyword word).scan (front ++ '=' :: text) = front ++ '=' :: tail := by
    have matched : (keyword word (front ++ '=' :: text)).map Subtype.val = some found.1 := by
      rw [matched, Option.map_some]
    obtain ⟨value, whole, shown⟩ := keyword_eq_some plain matched
    obtain ⟨rfl, -⟩ := append_cons_inj plain before whole.symm
    rw [scan_of_match matched, shown]
    exact ⟨"***".toList ++ (keyword word).scan found.1.rest, by simp⟩
  induction front with
  | nil =>
    cases h : keyword word ('=' :: text) with
    | some found => exact atStart before h
    | none => exact ⟨_, scan_cons h⟩
  | cons c front ih =>
    rw [List.cons_append]
    cases h : keyword word (c :: (front ++ '=' :: text)) with
    | some found => exact atStart before h
    | none =>
      obtain ⟨tail, rest⟩ := ih fun later => before (List.mem_cons_of_mem c later)
      exact ⟨tail, by rw [scan_cons h, rest, List.cons_append]⟩

end Keywords

/-! ## Users and passwords -/

theorem afterRun?_append {member : Char → Bool} {stop : Char} {run : List Char} (ne : run ≠ [])
    (inside : ∀ c ∈ run, member c = true) (outside : member stop = false) (rest : List Char) :
    afterRun? member stop (run ++ stop :: rest) = some rest := by
  obtain ⟨c, run, rfl⟩ := List.exists_cons_of_ne_nil ne
  simp only [afterRun?, List.takeWhile_append_of_pos inside, List.dropWhile_append_of_pos inside,
    List.takeWhile_cons, List.dropWhile_cons, outside]
  simp

theorem afterRun?_suffix {member : Char → Bool} {stop : Char} {text rest : List Char}
    (reads : afterRun? member stop text = some rest) : stop :: rest <:+ text := by
  simp only [afterRun?] at reads
  split at reads
  · rename_i after
    split at reads
    · rename_i same
      cases reads
      rw [← same, ← after]
      exact List.dropWhile_suffix member
    · cases reads
  · cases reads

/-- Credentials are read from the mark before a user to the at sign behind a password. -/
theorem credentials_val (text : List Char) :
    (credentials text).map Subtype.val = (after? "://".toList text).bind fun user =>
      (afterRun? isUserChar ':' user).bind fun password =>
        (afterRun? isPasswordChar '@' password).map fun rest =>
          ⟨maskFor (text.take (text.length - rest.length)), rest⟩ := by
  simp only [credentials]
  split
  · rename_i unread
    rw [unread]; rfl
  · rename_i user reads
    split
    · rename_i unread
      simp only [reads, Option.bind_some, unread]; rfl
    · rename_i password readsUser
      split
      · rename_i unread
        simp only [reads, readsUser, Option.bind_some, unread]; rfl
      · rename_i rest readsPassword
        simp only [reads, readsUser, Option.bind_some, readsPassword]; rfl

/-- A match of credentials starts with a colon, and an at sign comes later. -/
theorem credentials_eq_some {text : List Char} {found : Match}
    (matched : (credentials text).map Subtype.val = some found) :
    (∃ rest, text = ':' :: rest) ∧ '@' ∈ text := by
  rw [credentials_val, Option.bind_eq_some_iff] at matched
  obtain ⟨user, starts, matched⟩ := matched
  obtain ⟨password, readsUser, matched⟩ := Option.bind_eq_some_iff.1 matched
  obtain ⟨rest, readsPassword, -⟩ := Option.map_eq_some_iff.1 matched
  have whole : text = ':' :: ('/' :: '/' :: user) := by simpa using after?_eq_some.1 starts
  have inUser := (afterRun?_suffix readsUser).subset (List.mem_cons_of_mem _
    ((afterRun?_suffix readsPassword).subset List.mem_cons_self))
  exact ⟨⟨_, whole⟩, by rw [whole]; simp [inUser]⟩

theorem credentials_eq_none {text : List Char}
    (absent : (∀ rest, text ≠ ':' :: rest) ∨ '@' ∉ text) : credentials text = none := by
  cases h : credentials text with
  | none => rfl
  | some found =>
    obtain ⟨⟨rest, starts⟩, marked⟩ := credentials_eq_some (by rw [h, Option.map_some])
    cases absent with
    | inl noColon => exact absurd starts (noColon rest)
    | inr noMark => exact absurd marked noMark

/-- A text without an at sign has no credentials to replace. -/
theorem credentials_scan_of_not_mem {text : List Char} (absent : '@' ∉ text) :
    credentials.scan text = text :=
  scan_of_no_match fun _ ends => credentials_eq_none (.inr fun inside => absent (ends.subset inside))

/-- The credentials of a URI are read to the first at sign. -/
theorem credentials_uri {user password : List Char} (user_ne : user ≠ [])
    (userChars : ∀ c ∈ user, isUserChar c = true) (password_ne : password ≠ [])
    (unmarked : '@' ∉ password) (rest : List Char) :
    (credentials ("://".toList ++ user ++ ':' :: password ++ '@' :: rest)).map Subtype.val
      = some ⟨maskFor ("://".toList ++ user ++ ':' :: password ++ ['@']), rest⟩ := by
  have starts : after? "://".toList ("://".toList ++ user ++ ':' :: password ++ '@' :: rest)
      = some (user ++ ':' :: (password ++ '@' :: rest)) := after?_eq_some.2 (by simp)
  have passwordChars : ∀ c ∈ password, isPasswordChar c = true := fun c inside => by
    simpa [isPasswordChar] using fun same : c = '@' => unmarked (same ▸ inside)
  have whole : "://".toList ++ user ++ ':' :: password ++ '@' :: rest
      = ("://".toList ++ user ++ ':' :: password ++ ['@']) ++ rest := by simp
  rw [credentials_val, starts, Option.bind_some, afterRun?_append user_ne userChars (by decide),
    Option.bind_some, afterRun?_append password_ne passwordChars (by decide), Option.map_some, whole,
    List.length_append, Nat.add_sub_cancel, List.take_left]

/-- The credentials of a URI are replaced, and the pass goes on behind them. -/
theorem credentials_scan_uri {scheme user password : List Char} (schemeColon : ':' ∉ scheme)
    (user_ne : user ≠ []) (userChars : ∀ c ∈ user, isUserChar c = true)
    (password_ne : password ≠ []) (unmarked : '@' ∉ password) (rest : List Char) :
    credentials.scan (scheme ++ ("://".toList ++ user ++ ':' :: password ++ '@' :: rest))
      = scheme ++ (maskFor ("://".toList ++ user ++ ':' :: password ++ ['@'])
          ++ credentials.scan rest) := by
  rw [scan_append, scan_of_match (credentials_uri user_ne userChars password_ne unmarked rest)]
  intro tail ends tail_ne
  obtain ⟨c, tail, rfl⟩ := List.exists_cons_of_ne_nil tail_ne
  refine credentials_eq_none (.inl fun rest same => schemeColon ?_)
  obtain ⟨rfl, -⟩ := List.cons.inj same
  exact ends.subset List.mem_cons_self

end SchemaChange.Masking
