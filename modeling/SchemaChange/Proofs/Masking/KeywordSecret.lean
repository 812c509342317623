/-
# SchemaChange.Proofs.Masking.KeywordSecret — what a masked keyword tells about its value

The value of a keyword ends at a semicolon or an ampersand, and no keyword has one.  So a pass for a
keyword treats the fields between these delimiters one by one, and of a field that has its keyword
it shows nothing behind the first equals sign of that.

* `keyword_scan_delimiter` — a pass goes over each side of a delimiter on its own.
* `keyword_scan_hides`, `keyword_scan_copies` — in a field, what stands behind an equals sign is
  hidden if the keyword ends there or earlier; else what stands before it is copied.
* `keyword_scan_labelled` — so a pass hides the value of a name, or passes over it on its own.
* `keyword_value_is_masked` — so two values of a keyword leave the same masked text, whatever
  stands around them and in them.
-/
import SchemaChange.Proofs.Masking.Scan

set_option autoImplicit false

namespace SchemaChange.Masking

open SchemaChange.Text

/-! ## Fields -/

section Fields

variable {word : List Char}

theorem after?_append_cons {d : Char} (absent : d ∉ word) (front back : List Char) :
    after? word (front ++ d :: back) = (after? word front).map (· ++ d :: back) := by
  induction word generalizing front with
  | nil => simp [after?]
  | cons w word ih =>
    simp only [List.mem_cons, not_or] at absent
    cases front with
    | nil => simp [after?, Ne.symm absent.1]
    | cons c front =>
      by_cases same : w = c
      · simp [after?, same, ih absent.2]
      · simp [after?, same]

theorem takeWhile_append_cons {p : Char → Bool} {d : Char} (outside : p d = false)
    (front back : List Char) : (front ++ d :: back).takeWhile p = front.takeWhile p := by
  induction front with
  | nil => simp [outside]
  | cons c front ih => simp [List.takeWhile_cons, ih]

theorem dropWhile_append_cons {p : Char → Bool} {d : Char} (outside : p d = false)
    (front back : List Char) :
    (front ++ d :: back).dropWhile p = front.dropWhile p ++ d :: back := by
  induction front with
  | nil => simp [outside]
  | cons c front ih =>
    simp only [List.cons_append, List.dropWhile_cons, ih]
    split <;> rfl

/-- A match of a keyword ends before the next delimiter. -/
theorem keyword_val_delimiter {d : Char} (absent : d ∉ word ++ ['=']) (outside : isSecretChar d = false)
    (front back : List Char) :
    (keyword word (front ++ d :: back)).map Subtype.val =
      ((keyword word front).map Subtype.val).map fun found =>
        { found with rest := found.rest ++ d :: back } := by
  rw [keyword_val, keyword_val, after?_append_cons absent]
  cases after? (word ++ ['=']) front with
  | none => rfl
  | some value =>
    simp only [Option.map_some, Option.bind_some, takeWhile_append_cons outside,
      dropWhile_append_cons outside]
    split <;> rfl

theorem keyword_eq_none_of_val {text : List Char}
    (unread : (keyword word text).map Subtype.val = none) : keyword word text = none :=
  Option.map_eq_none_iff.1 unread

/-- **A pass for a keyword goes over each side of a delimiter on its own.** -/
theorem keyword_scan_delimiter {d : Char} (absent : d ∉ word ++ ['='])
    (outside : isSecretChar d = false) (front back : List Char) :
    (keyword word).scan (front ++ d :: back)
      = (keyword word).scan front ++ d :: (keyword word).scan back := by
  -- a match of the front leaves a rest that is shorter, not a tail of the front
  induction size : front.length using Nat.strongRecOn generalizing front with
  | ind size ih =>
    subst size
    have reads := keyword_val_delimiter absent outside front back
    cases matched : keyword word front with
    | some found =>
      rw [matched] at reads
      have here : (keyword word front).map Subtype.val = some found.1 := by rw [matched]; rfl
      rw [scan_of_match reads, scan_of_match here, ih _ found.2 found.1.rest rfl, List.append_assoc]
    | none =>
      rw [matched] at reads
      cases front with
      | nil =>
        have unmatched : keyword word (d :: back) = none := keyword_eq_none_of_val reads
        rw [List.nil_append, scan_cons unmatched, scan_nil, List.nil_append]
      | cons c front =>
        have unmatched : keyword word (c :: (front ++ d :: back)) = none :=
          keyword_eq_none_of_val reads
        rw [List.cons_append, scan_cons unmatched, scan_cons matched,
          ih front.length (by simp) front rfl, List.cons_append]

/-- A text that ends with a delimiter, or is empty. -/
def Closed (text : List Char) : Prop :=
  ∀ c ∈ text.getLast?, isSecretChar c = false

/-- A text that starts with a delimiter, or is empty. -/
def Fresh (text : List Char) : Prop :=
  ∀ c ∈ text.head?, isSecretChar c = false

theorem keyword_scan_closed {front : List Char} (closed : Closed front)
    (fields : ∀ c ∈ word ++ ['='], isSecretChar c = true) (back : List Char) :
    (keyword word).scan (front ++ back)
      = (keyword word).scan front ++ (keyword word).scan back := by
  rcases List.eq_nil_or_concat front with rfl | ⟨front, d, rfl⟩
  · rw [List.nil_append, scan_nil, List.nil_append]
  · have outside : isSecretChar d = false := closed d (by simp)
    have absent : d ∉ word ++ ['='] := not_mem_of_all fields outside
    have alone := keyword_scan_delimiter absent outside front []
    rw [scan_nil] at alone
    rw [List.concat_eq_append, List.append_assoc, List.singleton_append,
      keyword_scan_delimiter absent outside, alone]
    simp

theorem keyword_scan_fresh {back : List Char} (fresh : Fresh back)
    (fields : ∀ c ∈ word ++ ['='], isSecretChar c = true) (front : List Char) :
    (keyword word).scan (front ++ back)
      = (keyword word).scan front ++ (keyword word).scan back := by
  cases back with
  | nil => rw [List.append_nil, scan_nil, List.append_nil]
  | cons d back =>
    have outside : isSecretChar d = false := fresh d rfl
    have absent : d ∉ word ++ ['='] := not_mem_of_all fields outside
    have alone := keyword_scan_delimiter absent outside [] back
    rw [List.nil_append, scan_nil, List.nil_append] at alone
    rw [keyword_scan_delimiter absent outside, alone]

/-! ## Values in a field -/

/-- The value of a keyword: it is not empty, and has no delimiter. -/
def IsValue (text : List Char) : Prop :=
  text ≠ [] ∧ ∀ c ∈ text, isSecretChar c = true

/-- Whether a keyword ends at an equals sign does not depend on what follows the sign. -/
theorem keyword_prefix_iff (plain : '=' ∉ word) (front rest : List Char) :
    word ++ ['='] <+: front ++ '=' :: rest ↔ word ++ ['='] <+: front ++ ['='] := by
  have whole : front ++ '=' :: rest = (front ++ ['=']) ++ rest := by simp
  rw [whole]
  refine ⟨fun starts => ?_, fun starts => starts.trans (List.prefix_append _ _)⟩
  rcases List.prefix_or_prefix_of_prefix starts (List.prefix_append _ _) with within | ⟨more, same⟩
  · exact within
  · -- the sign is the last character of the keyword, so nothing is left of it
    rcases List.eq_nil_or_concat more with rfl | ⟨more, c, rfl⟩
    · rw [List.append_nil] at same
      exact same ▸ List.prefix_refl _
    · rw [List.concat_eq_append, ← List.append_assoc] at same
      have inside : '=' ∈ word := by
        rw [← (List.append_inj' same rfl).1]
        simp
      exact absurd inside plain

theorem keyword_eq_none {text : List Char} (unread : ¬ word ++ ['='] <+: text) :
    keyword word text = none := by
  apply keyword_eq_none_of_val
  rw [keyword_val]
  cases reads : after? (word ++ ['=']) text with
  | none => rfl
  | some value => exact absurd ⟨value, (after?_eq_some.1 reads).symm⟩ unread

theorem dropWhile_field {text : List Char} (field : ∀ c ∈ text, isSecretChar c = true) :
    text.dropWhile isSecretChar = [] := by
  have none : (text ++ []).dropWhile isSecretChar = [] := List.dropWhile_append_of_pos field
  rwa [List.append_nil] at none

/-- In a field, a keyword swallows all that follows it. -/
theorem keyword_scan_swallows (plain : '=' ∉ word) {value : List Char} (isValue : IsValue value) :
    (keyword word).scan (word ++ '=' :: value) = word ++ "=***".toList := by
  have reads : (keyword word (word ++ '=' :: value)).map Subtype.val
      = some ⟨word ++ "=***".toList, []⟩ := by
    have starts : after? (word ++ ['=']) (word ++ '=' :: value) = some value :=
      after?_eq_some.2 (by simp)
    have all : (value ++ []).takeWhile isSecretChar = value ++ [] :=
      List.takeWhile_append_of_pos isValue.2
    rw [List.append_nil] at all
    rw [keyword_val, starts, Option.bind_some, all, dropWhile_field isValue.2,
      maskFor_equals plain, if_neg]
    simpa using isValue.1
  rw [scan_of_match reads, scan_nil, List.append_nil]

/-- What stands between a keyword and a value is swallowed with it. -/
theorem keyword_scan_starts (plain : '=' ∉ word) {front : List Char}
    (fields : ∀ c ∈ front, isSecretChar c = true) (starts : word ++ ['='] <+: front ++ ['='])
    {value : List Char} (isValue : IsValue value) :
    (keyword word).scan (front ++ '=' :: value) = word ++ "=***".toList := by
  obtain ⟨between, same⟩ := starts
  have whole : front ++ '=' :: value = word ++ '=' :: (between ++ value) := by
    have split : front ++ '=' :: value = (front ++ ['=']) ++ value := by simp
    rw [split, ← same]
    simp
  rw [whole]
  refine keyword_scan_swallows plain ⟨by simp [isValue.1], fun c inside => ?_⟩
  rcases List.mem_append.1 inside with early | late
  · have member : c ∈ front ++ ['='] := by
      rw [← same]
      simp [early]
    rcases List.mem_append.1 member with inFront | sign
    · exact fields c inFront
    · rw [List.mem_singleton.1 sign]
      decide
  · exact isValue.2 c late

/-- **In a field, a value is hidden if the keyword stands somewhere before it.** -/
theorem keyword_scan_hides (plain : '=' ∉ word) {front : List Char}
    (fields : ∀ c ∈ front, isSecretChar c = true) (present : word ++ ['='] <:+: front ++ ['=']) :
    ∃ shown, ∀ value, IsValue value → (keyword word).scan (front ++ '=' :: value) = shown := by
  induction front with
  | nil =>
    rcases List.infix_cons_iff.1 present with starts | later
    · exact ⟨_, fun value isValue => keyword_scan_starts plain fields starts isValue⟩
    · simp at later
  | cons c front ih =>
    by_cases starts : word ++ ['='] <+: (c :: front) ++ ['=']
    · exact ⟨_, fun value isValue => keyword_scan_starts plain fields starts isValue⟩
    · have later := (List.infix_cons_iff.1 present).resolve_left starts
      obtain ⟨shown, same⟩ := ih (fun d inside => fields d (List.mem_cons_of_mem c inside)) later
      refine ⟨c :: shown, fun value isValue => ?_⟩
      have unmatched : keyword word (c :: (front ++ '=' :: value)) = none :=
        keyword_eq_none fun matched => starts ((keyword_prefix_iff plain (c :: front) value).1 matched)
      rw [List.cons_append, scan_cons unmatched, same value isValue]

/-- What stands before a value is copied if the keyword does not stand there. -/
theorem keyword_scan_copies (plain : '=' ∉ word) {front : List Char}
    (absent : ¬ word ++ ['='] <:+: front ++ ['=']) (value : List Char) :
    (keyword word).scan (front ++ '=' :: value) = front ++ '=' :: (keyword word).scan value := by
  have copied : (keyword word).scan ((front ++ ['=']) ++ value)
      = (front ++ ['=']) ++ (keyword word).scan value := by
    refine scan_append _ _ fun tail ends ne => keyword_eq_none fun matched => ?_
    obtain ⟨between, rfl⟩ : ∃ between, tail = between ++ ['='] := by
      rcases List.eq_nil_or_concat tail with rfl | ⟨between, c, rfl⟩
      · exact absurd rfl ne
      · rw [List.concat_eq_append] at ends ⊢
        obtain ⟨early, same⟩ := ends
        rw [← List.append_assoc] at same
        exact ⟨between, by rw [(List.append_inj' same rfl).2]⟩
    rw [List.append_assoc, List.singleton_append, keyword_prefix_iff plain] at matched
    exact absent (matched.isInfix.trans ends.isInfix)
  simpa using copied

/-- A match in a field leaves no rest. -/
theorem keyword_rest_of_field {text : List Char} (field : ∀ c ∈ text, isSecretChar c = true)
    {found : Match} (matched : (keyword word text).map Subtype.val = some found) :
    found.rest = [] := by
  rw [keyword_val, Option.bind_eq_some_iff] at matched
  obtain ⟨value, reads, matched⟩ := matched
  have whole : text = (word ++ ['=']) ++ value := after?_eq_some.1 reads
  split at matched
  · cases matched
  · cases matched
    exact dropWhile_field fun c inside => field c (by simp [whole, inside])

/-- At the start of a field, a pass copies a character or masks all that is left. -/
theorem keyword_scan_cons_field (plain : '=' ∉ word) {c : Char} {text : List Char}
    (field : ∀ d ∈ c :: text, isSecretChar d = true) :
    (keyword word).scan (c :: text) = c :: (keyword word).scan text
      ∨ (keyword word).scan (c :: text) = word ++ "=***".toList := by
  cases matched : keyword word (c :: text) with
  | none => exact .inl (scan_cons matched)
  | some found =>
    have here : (keyword word (c :: text)).map Subtype.val = some found.1 := by rw [matched]; rfl
    obtain ⟨-, -, shown⟩ := keyword_eq_some plain here
    rw [scan_of_match here, keyword_rest_of_field field here, scan_nil, List.append_nil]
    exact .inr shown

/-- A pass over a field leaves one field. -/
theorem keyword_scan_field (plain : '=' ∉ word)
    (fields : ∀ c ∈ word ++ ['='], isSecretChar c = true) {text : List Char}
    (field : ∀ c ∈ text, isSecretChar c = true) :
    ∀ c ∈ (keyword word).scan text, isSecretChar c = true := by
  induction text with
  | nil => simp [scan_nil]
  | cons c text ih =>
    obtain ⟨first, later⟩ := List.forall_mem_cons.1 field
    rcases keyword_scan_cons_field plain field with copied | masked
    · rw [copied]
      exact List.forall_mem_cons.2 ⟨first, ih later⟩
    · rw [masked]
      exact List.forall_mem_append.2 ⟨(List.forall_mem_append.1 fields).1,
        List.all_eq_true.1 (by decide)⟩

/-- A pass over a value leaves a value. -/
theorem keyword_scan_isValue (plain : '=' ∉ word)
    (fields : ∀ c ∈ word ++ ['='], isSecretChar c = true) {value : List Char}
    (isValue : IsValue value) : IsValue ((keyword word).scan value) := by
  refine ⟨?_, keyword_scan_field plain fields isValue.2⟩
  obtain ⟨c, value, rfl⟩ := List.exists_cons_of_ne_nil isValue.1
  rcases keyword_scan_cons_field plain isValue.2 with copied | masked
  · simp [copied]
  · simp [masked]

/-! ## Values in a text -/

/-- The last field of a text starts behind the last delimiter. -/
theorem exists_last_field (text : List Char) :
    ∃ front field, text = front ++ field ∧ Closed front ∧ ∀ c ∈ field, isSecretChar c = true := by
  induction text with
  | nil => exact ⟨[], [], rfl, by simp [Closed], by simp⟩
  | cons c text ih =>
    obtain ⟨front, field, rfl, closed, chars⟩ := ih
    cases front with
    | cons d front => exact ⟨c :: d :: front, field, rfl, by simpa [Closed] using closed, chars⟩
    | nil =>
      by_cases inside : isSecretChar c = true
      · exact ⟨[], c :: field, rfl, by simp [Closed], List.forall_mem_cons.2 ⟨inside, chars⟩⟩
      · exact ⟨[c], field, rfl, by simpa [Closed] using inside, chars⟩

theorem Fresh.keyword_scan {text : List Char} (fresh : Fresh text)
    (fields : ∀ c ∈ word ++ ['='], isSecretChar c = true) : Fresh ((keyword word).scan text) := by
  cases text with
  | nil => simp [scan_nil, Fresh]
  | cons d text =>
    have outside : isSecretChar d = false := fresh d rfl
    have starts := keyword_scan_delimiter (not_mem_of_all fields outside) outside [] text
    rw [scan_nil, List.nil_append, List.nil_append] at starts
    simpa [starts, Fresh] using outside

/-- **A pass hides the value of a name, or passes over it on its own.**  It does the former if the
name is its keyword. -/
theorem keyword_scan_labelled (plain : '=' ∉ word)
    (fields : ∀ c ∈ word ++ ['='], isSecretChar c = true) {name : List Char}
    (nameChars : ∀ c ∈ name, isSecretChar c = true) (before : List Char) {after : List Char}
    (fresh : Fresh after) :
    (∃ shown, ∀ value, IsValue value →
        (keyword word).scan (before ++ (name ++ '=' :: value) ++ after) = shown)
      ∨ word ≠ name ∧ ∃ before' after', Fresh after' ∧ ∀ value,
          (keyword word).scan (before ++ (name ++ '=' :: value) ++ after)
            = before' ++ (name ++ '=' :: (keyword word).scan value) ++ after' := by
  obtain ⟨early, field, rfl, closed, fieldChars⟩ := exists_last_field before
  have pieces (value : List Char) :
      (keyword word).scan (early ++ field ++ (name ++ '=' :: value) ++ after)
        = (keyword word).scan early ++ (keyword word).scan ((field ++ name) ++ '=' :: value)
            ++ (keyword word).scan after := by
    rw [keyword_scan_fresh fresh fields, List.append_assoc early, keyword_scan_closed closed fields,
      ← List.append_assoc field]
  by_cases present : word ++ ['='] <:+: (field ++ name) ++ ['=']
  · left
    obtain ⟨shown, same⟩ := keyword_scan_hides plain
      (List.forall_mem_append.2 ⟨fieldChars, nameChars⟩) present
    exact ⟨_, fun value isValue => by rw [pieces, same value isValue]⟩
  · right
    refine ⟨fun same => present ?_, (keyword word).scan early ++ field, (keyword word).scan after,
      fresh.keyword_scan fields, fun value => ?_⟩
    · rw [same, List.append_assoc]
      exact (List.suffix_append field _).isInfix
    · rw [pieces, keyword_scan_copies plain present]
      simp

end Fields

/-! ## Connection strings -/

/-- The names whose values are masked. -/
def secretNames : List String := ["password", "pwd"]

theorem secretNames_plain {name : String} (known : name ∈ secretNames) : '=' ∉ name.toList := by
  revert name
  decide

theorem secretNames_fields {name : String} (known : name ∈ secretNames) :
    ∀ c ∈ name.toList ++ ['='], isSecretChar c = true := by
  rw [← List.all_eq_true]
  revert name
  decide

/-- The two passes for keywords hide the value of either. -/
theorem keyword_passes_hide {name : String} (known : name ∈ secretNames) (before : List Char)
    {after : List Char} (fresh : Fresh after) :
    ∃ shown, ∀ value, IsValue value →
      (keyword "pwd".toList).scan ((keyword "password".toList).scan
        (before ++ (name.toList ++ '=' :: value) ++ after)) = shown := by
  have chars : ∀ c ∈ name.toList, isSecretChar c = true := fun c inside =>
    secretNames_fields known c (List.mem_append_left _ inside)
  have pass (word : String) (isName : word ∈ secretNames) (before : List Char) {after : List Char}
      (fresh : Fresh after) :=
    keyword_scan_labelled (secretNames_plain isName) (secretNames_fields isName) chars before fresh
  have longer : "password" ∈ secretNames := by decide
  rcases pass "password" longer before fresh with
    ⟨shown, same⟩ | ⟨isPwd, before', after', fresh', passed⟩
  · exact ⟨_, fun value isValue => by rw [same value isValue]⟩
  · have name_eq : name = "pwd" := by
      simp only [secretNames, List.mem_cons, List.not_mem_nil, or_false] at known
      exact known.resolve_left fun same => isPwd (same ▸ rfl)
    rcases pass "pwd" (by decide) before' fresh' with ⟨shown, same⟩ | ⟨notPwd, -⟩
    · exact ⟨shown, fun value isValue => by
        rw [passed, same _ (keyword_scan_isValue (secretNames_plain longer)
          (secretNames_fields longer) isValue)]⟩
    · exact absurd (name_eq ▸ rfl) notPwd

theorem secretNames_apart : ∀ name ∈ secretNames, ∀ word ∈ secretNames, word ≠ name →
    ¬ word.toList ++ ['='] <:+: name.toList ++ "=***".toList := by
  decide +kernel

theorem isValue_mask : IsValue "***".toList :=
  ⟨by decide, List.all_eq_true.1 (by decide)⟩

/-- A pass leaves a masked name as it is, its own too. -/
theorem keyword_scan_mask {name word : String} (known : name ∈ secretNames)
    (isName : word ∈ secretNames) :
    (keyword word.toList).scan (name.toList ++ "=***".toList) = name.toList ++ "=***".toList := by
  by_cases same : word = name
  · subst same
    exact keyword_scan_swallows (secretNames_plain known) isValue_mask
  · exact keyword_scan_of_not_infix (secretNames_plain isName)
      (secretNames_apart name known word isName same)

/-- A text with nothing to mask. -/
def Unmarked (text : List Char) : Prop :=
  '@' ∉ text ∧ ∀ word ∈ secretNames, ¬ word.toList ++ ['='] <:+: text

/-- Between fields with nothing to mask, a masked name stays as it is. -/
theorem maskChars_masked {name : String} (known : name ∈ secretNames) {before after : List Char}
    (closed : Closed before) (fresh : Fresh after) (early : Unmarked before)
    (late : Unmarked after) :
    maskChars (before ++ (name.toList ++ "=***".toList) ++ after)
      = before ++ (name.toList ++ "=***".toList) ++ after := by
  have pass (word : String) (isName : word ∈ secretNames) :
      (keyword word.toList).scan (before ++ (name.toList ++ "=***".toList) ++ after)
        = before ++ (name.toList ++ "=***".toList) ++ after := by
    have plain := secretNames_plain isName
    have fields := secretNames_fields isName
    rw [keyword_scan_fresh fresh fields, keyword_scan_closed closed fields,
      keyword_scan_of_not_infix plain (early.2 word isName), keyword_scan_mask known isName,
      keyword_scan_of_not_infix plain (late.2 word isName)]
  have unmarked : '@' ∉ name.toList ++ "=***".toList := by
    clear pass
    revert name
    decide
  rw [maskChars, pass "password" (by decide), pass "pwd" (by decide)]
  exact credentials_scan_of_not_mem (by simpa [early.1, late.1] using unmarked)

/-- **Two values of a keyword leave the same masked text**, whatever stands around them, and
whatever keywords and URIs they have in them.  Between fields with nothing to mask, a mask stands
in their place and all else is shown. -/
theorem keyword_value_is_masked {name : String} (known : name ∈ secretNames)
    (before after : String) (fresh : Fresh after.toList) {p q : String} (isValue : IsValue p.toList)
    (isOther : IsValue q.toList) :
    mask (before ++ (name ++ "=") ++ p ++ after) = mask (before ++ (name ++ "=") ++ q ++ after)
      ∧ (Closed before.toList → Unmarked before.toList → Unmarked after.toList →
          mask (before ++ (name ++ "=") ++ p ++ after) = before ++ (name ++ "=") ++ "***" ++ after) := by
  obtain ⟨shown, hidden⟩ := keyword_passes_hide known before.toList fresh
  have masked {value : String} (isValue : IsValue value.toList) :
      mask (before ++ (name ++ "=") ++ value ++ after) = String.ofList (credentials.scan shown) := by
    rw [← hidden value.toList isValue, mask, maskChars]
    simp
  refine ⟨by rw [masked isValue, masked isOther], fun closed early late => ?_⟩
  rw [masked isValue, ← @masked "***" isValue_mask, mask]
  have kept := maskChars_masked known closed fresh early late
  apply String.toList_injective
  simpa using kept

/-- A value behind another keyword in one field, with a keyword of its own, and one between two
plain fields. -/
theorem keyword_value_is_masked_nested :
    mask ("a=password=h://u:x" ++ ("pwd" ++ "=") ++ "s@password=t" ++ "&pwd=z@h")
        = mask ("a=password=h://u:x" ++ ("pwd" ++ "=") ++ "x" ++ "&pwd=z@h")
      ∧ mask ("host=h;" ++ ("pwd" ++ "=") ++ "s@t" ++ "&x=1") = "host=h;pwd=***&x=1" := by
  have nested : IsValue "s@password=t".toList := ⟨by decide, List.all_eq_true.1 (by decide)⟩
  have short : IsValue "x".toList := ⟨by decide, List.all_eq_true.1 (by decide)⟩
  have marked : IsValue "s@t".toList := ⟨by decide, List.all_eq_true.1 (by decide)⟩
  have fresh : Fresh "&pwd=z@h".toList ∧ Fresh "&x=1".toList := by
    simp [Fresh, isSecretChar]
  have closed : Closed "host=h;".toList := by
    simp [Closed, isSecretChar]
  have unmarked : Unmarked "host=h;".toList ∧ Unmarked "&x=1".toList := by
    simp only [Unmarked]
    decide +kernel
  exact ⟨(keyword_value_is_masked (by decide) _ _ fresh.1 nested short).1,
    (keyword_value_is_masked (by decide) "host=h;" "&x=1" fresh.2 marked marked).2
      closed unmarked.1 unmarked.2⟩

end SchemaChange.Masking
