/-
# SchemaChange.Proofs.Uri.Written — a URI that is written is taken apart as it was put together

A URI is written as a scheme, an authority behind two slashes, a path that starts with a
slash, and perhaps a query.  Where no part has a delimiter of the parts around it, taking the
whole apart gives the parts back.

* `split_written` — the parts of a written URI.
* `userInfo_written`, `hostInfo_written`, `port_written` — the parts of an authority with a
  user, a password, a host and a port.
* `firstFields_written` — the fields of a written query, if no two have one name.
-/
import SchemaChange.Proofs.Text.Decimal
import SchemaChange.Proofs.Text.Percent
import SchemaChange.Uri.Basic
import SchemaChange.Uri.Query

set_option autoImplicit false

namespace SchemaChange.Uri

open SchemaChange.Text

/-! ## The parts of a URI -/

/-- Whether a character can be in an authority without being a delimiter, a bracket or like one. -/
def isPlainAuthority (c : Char) : Bool :=
  !endsAuthority c && c != '[' && c != ']' && c.toNat < 0x80

/-- A query with the question mark before it, if there is one. -/
def withQuery : Option (List Char) → List Char
  | some query => '?' :: query
  | none => []

/-- A URI that is written with its parts. -/
def written (scheme authority path : List Char) (query : Option (List Char)) : List Char :=
  scheme ++ "://".toList ++ authority ++ path ++ withQuery query

section Parts

variable {scheme authority path : List Char} {query : Option (List Char)}

theorem isLeadingIgnored_of_isAlpha {c : Char} (letter : c.isAlpha = true) :
    isLeadingIgnored c = false := by
  rw [isAlpha_iff, isUpper_iff, isLower_iff] at letter
  simp only [isLeadingIgnored, decide_eq_false_iff_not]
  omega

/-- A scheme starts with a letter, and its characters are no delimiters. -/
theorem scheme_cases (isScheme : isScheme scheme = true) :
    ∃ c rest, scheme = c :: rest ∧ c.isAlpha = true ∧ ∀ c ∈ scheme, isSchemeChar c = true := by
  cases scheme with
  | nil => cases isScheme
  | cons c rest =>
      simp only [Uri.isScheme, Bool.and_eq_true, List.all_eq_true] at isScheme
      exact ⟨c, rest, rfl, isScheme.1, isScheme.2⟩

theorem isIgnored_of_isSchemeChar {c : Char} (allowed : isSchemeChar c = true) :
    isIgnored c = false := by
  simp only [isIgnored, Bool.or_eq_false_iff, beq_eq_false_iff_ne]
  refine ⟨⟨?_, ?_⟩, ?_⟩
  all_goals
    rintro rfl
    revert allowed
    decide

/-- Nothing is left out of a text that starts with a letter and has no characters to ignore. -/
theorem counted {c : Char} {text : List Char} (letter : c.isAlpha = true)
    (kept : ∀ other ∈ c :: text, isIgnored other = false) :
    (((c :: text).dropWhile isLeadingIgnored).filter (!isIgnored ·)) = c :: text := by
  rw [List.dropWhile_cons_of_neg (by simp [isLeadingIgnored_of_isAlpha letter]),
    List.filter_eq_self]
  intro other member
  simp [kept other member]

theorem splitScheme_written (isScheme : isScheme scheme = true) (rest : List Char) :
    splitScheme (scheme ++ ':' :: rest) = (lower scheme, rest) := by
  obtain ⟨-, -, -, -, plain⟩ := scheme_cases isScheme
  have noColon : ':' ∉ scheme := by
    intro member
    have impossible := plain ':' member
    revert impossible
    decide
  simp [splitScheme, cut?_append noColon, isScheme]

theorem splitAuthority_written (plain : ∀ c ∈ authority, endsAuthority c = false)
    (rest : List Char) :
    splitAuthority ('/' :: '/' :: (authority ++ '/' :: rest)) = (authority, '/' :: rest) := by
  have inside : ∀ c ∈ authority, (!endsAuthority c) = true := by
    intro c member
    rw [plain c member]
    rfl
  have ends : (!endsAuthority '/') = false := rfl
  simp [splitAuthority, List.takeWhile_append_of_pos inside, List.dropWhile_append_of_pos inside,
    ends]

theorem splitAt_of_not_mem {delimiter : Char} {text : List Char} (absent : delimiter ∉ text) :
    splitAt delimiter text = (text, []) := by
  simp [splitAt, cut?_eq_none.2 absent]

theorem splitAt_append {delimiter : Char} {before : List Char} (absent : delimiter ∉ before)
    (rest : List Char) : splitAt delimiter (before ++ delimiter :: rest) = (before, rest) := by
  simp [splitAt, cut?_append absent]

/-- The query is what follows the question mark behind a path. -/
theorem splitAt_withQuery (noMark : '?' ∉ path) (query : Option (List Char)) :
    splitAt '?' (path ++ withQuery query) = (path, query.getD []) := by
  cases query with
  | none =>
      rw [withQuery, List.append_nil, splitAt_of_not_mem noMark]
      rfl
  | some query => exact splitAt_append noMark query

theorem checkLookalikes_of_ascii (ascii : ∀ c ∈ authority, c.toNat < 0x80) :
    checkLookalikes authority = .ok () := by
  have none : ¬ (authority.any fun c => delimiterLookalikes.contains c.toNat) = true := by
    rw [List.any_eq_true]
    rintro ⟨c, member, alike⟩
    have small := ascii c member
    have large : ∀ code ∈ delimiterLookalikes, 0x80 ≤ code := by decide
    have far := large _ (List.contains_iff_mem.1 alike)
    omega
  rw [checkLookalikes, if_neg none]

/-- **A written URI is taken apart into what it was written with**, its scheme in lower case. -/
theorem split_written (isScheme : isScheme scheme = true)
    (plain : ∀ c ∈ authority, isPlainAuthority c = true) (starts : path.head? = some '/')
    (noMark : '?' ∉ path) (noFragment : '#' ∉ path ++ withQuery query)
    (kept : ∀ c ∈ authority ++ path ++ withQuery query, isIgnored c = false) :
    split (written scheme authority path query)
      = .ok ⟨lower scheme, authority, path, query.getD []⟩ := by
  obtain ⟨c, rest, rfl, letter, schemeChars⟩ := scheme_cases isScheme
  obtain ⟨path, rfl⟩ : ∃ rest, path = '/' :: rest := by
    cases path with
    | nil => cases starts
    | cons first rest => exact ⟨rest, by rw [Option.some.inj starts]⟩
  simp only [isPlainAuthority, Bool.and_eq_true, Bool.not_eq_true', bne_iff_ne, ne_eq,
    decide_eq_true_eq] at plain
  have whole : written (c :: rest) authority ('/' :: path) query = (c :: rest) ++ ':' ::
      '/' :: '/' :: (authority ++ '/' :: (path ++ withQuery query)) := by
    simp [written]
  have everything : ∀ other ∈ c :: (rest ++ ':' :: '/' :: '/' ::
      (authority ++ '/' :: (path ++ withQuery query))), isIgnored other = false := by
    intro other member
    rw [← List.cons_append, List.mem_append] at member
    rcases member with inScheme | behind
    · exact isIgnored_of_isSchemeChar (schemeChars other inScheme)
    · simp only [List.mem_cons] at behind
      rcases behind with rfl | rfl | rfl | behind
      · rfl
      · rfl
      · rfl
      · exact kept other (by simpa using behind)
  have noBracket : ∀ bracket, bracket = '[' ∨ bracket = ']' → bracket ∉ authority := by
    intro bracket which member
    obtain ⟨⟨⟨-, opening⟩, closing⟩, -⟩ := plain bracket member
    rcases which with rfl | rfl
    · exact opening rfl
    · exact closing rfl
  have brackets := checkBrackets_of_not_mem (noBracket '[' (.inl rfl)) (noBracket ']' (.inr rfl))
  have lookalikes := checkLookalikes_of_ascii fun c member => (plain c member).2
  have authorityOf := splitAuthority_written (fun c member => (plain c member).1.1.1)
    (path ++ withQuery query)
  have queryOf := splitAt_withQuery noMark query
  have fragment := splitAt_of_not_mem noFragment
  rw [List.cons_append] at queryOf fragment
  rw [whole, split, List.cons_append, counted letter everything, ← List.cons_append]
  simp only [splitScheme_written isScheme, authorityOf, brackets, fragment, queryOf, lookalikes]
  rfl

end Parts

/-! ## The parts of an authority -/

section Authority

variable {user password host : List Char} {n : Nat}

/-- An authority with a user, a password, a host and a port. -/
def writtenAuthority (user password host : List Char) (n : Nat) : List Char :=
  user ++ ':' :: password ++ '@' :: (host ++ ':' :: digits n)

theorem cutLast?_writtenAuthority (hostPlain : '@' ∉ host) :
    cutLast? '@' (writtenAuthority user password host n)
      = some (user ++ ':' :: password, host ++ ':' :: digits n) := by
  apply cutLast?_append
  have noAt := not_mem_digits (c := '@') (by decide) n
  simp [hostPlain, noAt]

theorem userInfo_written (uri : Uri)
    (authority : uri.authority = writtenAuthority user password host n)
    (userPlain : ':' ∉ user) (hostPlain : '@' ∉ host) :
    uri.userInfo = (some user, some password) := by
  rw [userInfo, authority, cutLast?_writtenAuthority hostPlain]
  simp only [cut?_append userPlain]

theorem hostInfo_written (uri : Uri)
    (authority : uri.authority = writtenAuthority user password host n)
    (hostPlain : ∀ c ∈ ['@', ':', '['], c ∉ host) : uri.hostInfo = (host, digits n) := by
  have noAt := hostPlain '@' (by simp)
  have noColon := hostPlain ':' (by simp)
  have noBracket : '[' ∉ host ++ ':' :: digits n := by
    have inDigits := not_mem_digits (c := '[') (by decide) n
    have inHost := hostPlain '[' (by simp)
    simp [inHost, inDigits]
  have part : hostPart uri.authority = host ++ ':' :: digits n := by
    rw [hostPart, authority, cutLast?_writtenAuthority noAt]
  simp only [hostInfo, part, cut?_eq_none.2 noBracket, splitAt_append noColon]

/-- **A port in range is read back.** -/
theorem port_written (uri : Uri) (info : uri.hostInfo.2 = digits n) (inRange : n ≤ 65535) :
    uri.port = .ok (some n) := by
  have allDigits : (digits n).all isAsciiDigit = true := by
    rw [List.all_eq_true]
    intro c member
    exact isAsciiDigit_of_mem_digits member
  have fiveDigits : Nat.pow 10 5 = 100000 := rfl
  have short : (digits n).length ≤ 5 := length_digits_le (by decide) (by omega)
  have notLong : ¬ Numeral.maxDigits < (digits n).length := by
    have most : Numeral.maxDigits = 4300 := rfl
    omega
  rw [port, info]
  obtain ⟨c, rest, run⟩ := List.exists_cons_of_ne_nil (digits_ne_nil n)
  rw [run]
  rw [run] at allDigits notLong
  simp only [allDigits, Bool.not_true, Bool.false_eq_true, if_false, notLong]
  rw [← run, asciiNumber_digits, if_pos inRange]

end Authority

/-! ## The fields of a query -/

/-- A field that is written with its name and value encoded. -/
def Field.written (field : Field) : List Char :=
  Percent.encode field.name.toList ++ '=' :: Percent.encode field.value.toList

/-- A query that is written with its fields. -/
def writtenQuery (all : List Field) : List Char :=
  joinWith ['&'] (all.map Field.written)

theorem mem_joinWith {separator : List Char} {pieces : List (List Char)} {c : Char}
    (member : c ∈ joinWith separator pieces) :
    c ∈ separator ∨ ∃ piece ∈ pieces, c ∈ piece := by
  induction pieces with
  | nil => cases member
  | cons piece pieces ih =>
      cases pieces with
      | nil => exact .inr ⟨piece, List.mem_cons_self, member⟩
      | cons next pieces =>
          have whole : joinWith separator (piece :: next :: pieces)
              = piece ++ separator ++ joinWith separator (next :: pieces) := rfl
          rw [whole, List.mem_append, List.mem_append] at member
          rcases member with (first | between) | later
          · exact .inr ⟨piece, List.mem_cons_self, first⟩
          · exact .inl between
          · rcases ih later with between | ⟨other, inside, found⟩
            · exact .inl between
            · exact .inr ⟨other, List.mem_cons_of_mem _ inside, found⟩

/-- A written query has no characters but those of encoded texts and its own delimiters. -/
theorem mem_writtenQuery {all : List Field} {c : Char} (member : c ∈ writtenQuery all) :
    Percent.isPlain c = true ∨ c = '&' ∨ c = '=' := by
  rcases mem_joinWith member with between | ⟨piece, inside, found⟩
  · exact .inr (.inl (List.mem_singleton.1 between))
  · obtain ⟨field, -, rfl⟩ := List.mem_map.1 inside
    rw [Field.written, List.mem_append, List.mem_cons] at found
    rcases found with name | rfl | value
    · exact .inl (Percent.isPlain_of_mem_encode name)
    · exact .inr (.inr rfl)
    · exact .inl (Percent.isPlain_of_mem_encode value)

theorem read?_written {field : Field} (ne : field.value ≠ "") :
    Field.read? field.written = some field := by
  have noEquals : '=' ∉ Percent.encode field.name.toList :=
    Percent.not_mem_encode (by decide) _
  have value_ne : Percent.encode field.value.toList ≠ [] := by
    apply Percent.encode_ne_nil
    simpa using ne
  obtain ⟨c, rest, value⟩ := List.exists_cons_of_ne_nil value_ne
  rw [Field.read?, Field.written, cut?_append noEquals, value]
  simp only
  rw [← value, Percent.decodeForm_encode, Percent.decodeForm_encode, String.ofList_toList,
    String.ofList_toList]

theorem filterMap_read?_written {all : List Field} (ne : ∀ field ∈ all, field.value ≠ "") :
    (all.map Field.written).filterMap Field.read? = all := by
  induction all with
  | nil => rfl
  | cons field all ih =>
      have here := read?_written (ne field List.mem_cons_self)
      rw [List.map_cons, List.filterMap_cons_some here,
        ih fun other member => ne other (List.mem_cons_of_mem _ member)]

/-- The fields of a written query are the fields it was written with. -/
theorem fields_written {all : List Field} (ne : ∀ field ∈ all, field.value ≠ "") :
    fields (writtenQuery all) = all := by
  cases all with
  | nil => rfl
  | cons first rest =>
      have separate : ∀ piece ∈ (first :: rest).map Field.written, '&' ∉ piece := by
        intro piece member
        obtain ⟨field, -, rfl⟩ := List.mem_map.1 member
        have inName := Percent.not_mem_encode (c := '&') (by decide) field.name.toList
        have inValue := Percent.not_mem_encode (c := '&') (by decide) field.value.toList
        simp [Field.written, inName, inValue]
      rw [fields, writtenQuery, splitAll_joinWith (by simp) separate, filterMap_read?_written ne]

/-- Fields of different names all come for the first time. -/
theorem firstFields_distinct {all : List Field} (distinct : (all.map Field.name).Nodup) :
    firstFields all = all := by
  -- the fold has kept what it has seen, and none of that has the name of a field to come
  suffices kept : ∀ seen : List Field, (∀ field ∈ all, ∀ other ∈ seen, other.name ≠ field.name) →
      all.foldl (fun kept field =>
        if kept.any fun other => other.name == field.name then kept else kept ++ [field]) seen
        = seen ++ all by
    have start := kept [] (by simp)
    rw [firstFields, start, List.nil_append]
  induction all with
  | nil => simp
  | cons field all ih =>
      intro seen new
      rw [List.map_cons, List.nodup_cons] at distinct
      have notYet : ¬ (seen.any fun other => other.name == field.name) = true := by
        rw [List.any_eq_true]
        rintro ⟨other, member, same⟩
        exact new field List.mem_cons_self other member (by simpa using same)
      rw [List.foldl_cons, if_neg notYet, ih distinct.2]
      · simp
      · intro later member other inSeen
        rcases List.mem_append.1 inSeen with before | here
        · exact new later (List.mem_cons_of_mem _ member) other before
        · rw [List.mem_singleton.1 here]
          intro same
          exact distinct.1 (List.mem_map.2 ⟨later, member, same.symm⟩)

/-- **The fields of a written query are read back in order**, if no two have one name. -/
theorem firstFields_written {all : List Field} (ne : ∀ field ∈ all, field.value ≠ "")
    (distinct : (all.map Field.name).Nodup) : firstFields (fields (writtenQuery all)) = all := by
  rw [fields_written ne, firstFields_distinct distinct]

end SchemaChange.Uri
