/-
# SchemaChange.Masking — connection strings without their passwords

A connection string is masked before it is shown, in three passes: the value after
`password=`, the value after `pwd=`, and the user and password of a URI.  A value
ends before a semicolon or an ampersand, a URI's password at the next at sign.

Each pass replaces the leftmost match and goes on behind it.  Its pattern is a
function that reads a match at the start of a text: `Pattern.scan` gives the passes
one shape, and `scan_of_no_match` says that a text without a match stays as it is.
-/
import SchemaChange.Text.Search

set_option autoImplicit false

namespace SchemaChange.Masking

open SchemaChange.Text

/-- A pattern: the match at the start of a text, what replaces it, and the rest. -/
structure Match where
  shown : List Char
  rest : List Char

/-- A match at the start of a text whose rest is shorter than the text. -/
abbrev Pattern := (text : List Char) → Option { found : Match // found.rest.length < text.length }

/-- A text with the matches of a pattern replaced from left to right. -/
def Pattern.scan (pattern : Pattern) (text : List Char) : List Char :=
  match text with
  | [] => []
  | c :: rest =>
    match pattern (c :: rest) with
    | some ⟨found, _⟩ => found.shown ++ scan pattern found.rest
    | none => c :: scan pattern rest
termination_by text.length
decreasing_by
  · assumption
  · simp

/-- What a match is replaced by: its part before an equals sign and a mask, or a mask for the
user and password of a URI. -/
def maskFor (matched : List Char) : List Char :=
  match cut? '=' matched with
  | some (name, _) => name ++ "=***".toList
  | none => "://***:***@".toList

/-- Whether a character belongs to the value of a keyword. -/
def isSecretChar (c : Char) : Bool :=
  c != ';' && c != '&'

theorem length_dropWhile_le (p : Char → Bool) (text : List Char) :
    (text.dropWhile p).length ≤ text.length := by
  induction text with
  | nil => simp
  | cons c text ih =>
    simp only [List.dropWhile_cons]
    split
    · simp only [List.length_cons]; omega
    · simp

/-- A keyword with an equals sign and a value. -/
def keyword (word : List Char) : Pattern := fun text =>
  match h : after? (word ++ ['=']) text with
  | none => none
  | some value =>
    if (value.takeWhile isSecretChar).isEmpty then none
    else
      some ⟨⟨maskFor (word ++ '=' :: value.takeWhile isSecretChar), value.dropWhile isSecretChar⟩, by
        have split := after?_eq_some.1 h
        have := length_dropWhile_le isSecretChar value
        simp only [split, List.length_append, List.length_cons, List.length_nil]
        omega⟩

/-- Whether a character belongs to the user of a URI. -/
def isUserChar (c : Char) : Bool :=
  c != ':' && c != '/' && c != '@'

/-- Whether a character belongs to the password of a URI. -/
def isPasswordChar (c : Char) : Bool :=
  c != '@'

/-- The rest of a text after a run of characters of a class, if the run is not empty and a given
character follows it. -/
def afterRun? (member : Char → Bool) (stop : Char) (text : List Char) : Option (List Char) :=
  match text.takeWhile member, text.dropWhile member with
  | _ :: _, c :: rest => if c = stop then some rest else none
  | _, _ => none

theorem afterRun?_shorter {member : Char → Bool} {stop : Char} {text rest : List Char}
    (h : afterRun? member stop text = some rest) : rest.length < text.length := by
  simp only [afterRun?] at h
  split at h
  · rename_i run after
    split at h
    · cases h
      have := length_dropWhile_le member text
      rw [after] at this
      simp only [List.length_cons] at this
      omega
    · cases h
  · cases h

/-- The user and password of a URI with the marks around them. -/
def credentials : Pattern := fun text =>
  match h : after? "://".toList text with
  | none => none
  | some user =>
    match hUser : afterRun? isUserChar ':' user with
    | none => none
    | some password =>
      match hPassword : afterRun? isPasswordChar '@' password with
      | none => none
      | some rest =>
        some ⟨⟨maskFor (text.take (text.length - rest.length)), rest⟩, by
          have split := after?_eq_some.1 h
          have := afterRun?_shorter hUser
          have := afterRun?_shorter hPassword
          simp only [split, List.length_append]
          omega⟩

/-- A connection string without its passwords. -/
def maskChars (text : List Char) : List Char :=
  credentials.scan ((keyword "pwd".toList).scan ((keyword "password".toList).scan text))

/-- A connection string without its passwords. -/
def mask (text : String) : String :=
  String.ofList (maskChars text.toList)

theorem scan_nil (pattern : Pattern) : pattern.scan [] = [] := by
  simp [Pattern.scan]

theorem scan_of_no_match {pattern : Pattern} {text : List Char}
    (h : ∀ suffix, suffix <:+ text → pattern suffix = none) : pattern.scan text = text := by
  induction text with
  | nil => exact scan_nil pattern
  | cons c text ih =>
    rw [Pattern.scan, h _ (List.suffix_refl _)]
    simp only [List.cons.injEq, true_and]
    exact ih fun suffix hs => h suffix (hs.trans (List.suffix_cons c text))

end SchemaChange.Masking
