/-
# SchemaChange.Text.Search — finding, cutting and replacing in a text

The operations on lists of characters that the rest of the library shares: a
text cut at the first or last occurrence of a delimiter (`cut?`, `cutLast?`),
cut at all of them (`splitAll`), searched for a word (`occurs`), and changed
character by character (`replaceChar`).  Cutting loses nothing: `cut?_eq_some`
gives back the whole, `cutLast?_append` what was put around the last delimiter, and
`splitAll_joinWith` the parts of a text that was joined.
-/

set_option autoImplicit false

namespace SchemaChange.Text

/-- The rest of a text after a word at its start. -/
def after? : List Char → List Char → Option (List Char)
  | [], text => some text
  | _ :: _, [] => none
  | w :: word, c :: text => if w = c then after? word text else none

/-- Whether a word occurs somewhere in a text. -/
def occurs (word : List Char) : List Char → Bool
  | [] => word.isEmpty
  | c :: text => (after? word (c :: text)).isSome || occurs word text

/-- What stands before and after the first occurrence of a delimiter. -/
def cut? (delimiter : Char) : List Char → Option (List Char × List Char)
  | [] => none
  | c :: text =>
    if c = delimiter then some ([], text)
    else (cut? delimiter text).map fun halves => (c :: halves.1, halves.2)

/-- What stands before and after the last occurrence of a delimiter. -/
def cutLast? (delimiter : Char) : List Char → Option (List Char × List Char)
  | [] => none
  | c :: text =>
    match cutLast? delimiter text with
    | some halves => some (c :: halves.1, halves.2)
    | none => if c = delimiter then some ([], text) else none

/-- The pieces between all occurrences of a delimiter; there is always at least one. -/
def splitAll (delimiter : Char) : List Char → List (List Char)
  | [] => [[]]
  | c :: text =>
    if c = delimiter then [] :: splitAll delimiter text
    else match splitAll delimiter text with
      | [] => [[c]]
      | piece :: pieces => (c :: piece) :: pieces

/-- A text in which every occurrence of a character is replaced. -/
def replaceChar (old : Char) (new : List Char) (text : List Char) : List Char :=
  text.flatMap fun c => if c = old then new else [c]

/-- Texts one after the other with a separator between neighbours. -/
def joinWith (separator : List Char) : List (List Char) → List Char
  | [] => []
  | [text] => text
  | text :: rest => text ++ separator ++ joinWith separator rest

/-- A character that is not in a class is not in a text of the class. -/
theorem not_mem_of_all {member : Char → Bool} {text : List Char}
    (all : ∀ c ∈ text, member c = true) {c : Char} (other : member c = false) : c ∉ text := by
  intro inside
  rw [all c inside] at other
  cases other

theorem toList_intercalate (separator : String) (texts : List String) :
    (String.intercalate separator texts).toList
      = joinWith separator.toList (texts.map String.toList) := by
  induction texts with
  | nil => rfl
  | cons text texts ih =>
    cases texts with
    | nil => simp [joinWith]
    | cons next texts =>
      rw [String.intercalate_cons_cons, String.toList_append, String.toList_append, ih]
      rfl

theorem after?_eq_some {word text rest : List Char} :
    after? word text = some rest ↔ text = word ++ rest := by
  induction word generalizing text with
  | nil => simp [after?]
  | cons w word ih =>
    cases text with
    | nil => simp [after?]
    | cons c text =>
      by_cases h : w = c
      · subst h; simp [after?, ih]
      · simp [after?, h, Ne.symm h]

theorem cut?_eq_some {d : Char} {text before rest : List Char} (h : cut? d text = some (before, rest)) :
    text = before ++ d :: rest ∧ d ∉ before := by
  induction text generalizing before with
  | nil => simp [cut?] at h
  | cons c text ih =>
    by_cases hc : c = d
    · simp only [cut?, hc, if_true, Option.some.injEq, Prod.mk.injEq] at h
      obtain ⟨rfl, rfl⟩ := h
      simp [hc]
    · simp only [cut?, hc, if_false, Option.map_eq_some_iff] at h
      obtain ⟨⟨b, r⟩, hcut, heq⟩ := h
      simp only [Prod.mk.injEq] at heq
      obtain ⟨rfl, rfl⟩ := heq
      obtain ⟨rfl, hmem⟩ := ih hcut
      exact ⟨rfl, by simp [hmem, Ne.symm hc]⟩

theorem cut?_eq_none {d : Char} {text : List Char} : cut? d text = none ↔ d ∉ text := by
  induction text with
  | nil => simp [cut?]
  | cons c text ih =>
    by_cases hc : c = d
    · simp [cut?, hc]
    · simp [cut?, hc, ih, Ne.symm hc]

theorem cut?_append {d : Char} {before : List Char} (absent : d ∉ before) (rest : List Char) :
    cut? d (before ++ d :: rest) = some (before, rest) := by
  induction before with
  | nil => simp [cut?]
  | cons c before ih =>
    simp only [List.mem_cons, not_or] at absent
    simp [cut?, Ne.symm absent.1, ih absent.2]

/-- A text is cut at the first occurrence of a delimiter in one way only. -/
theorem append_cons_inj {d : Char} {before other rest others : List Char} (absent : d ∉ before)
    (alsoAbsent : d ∉ other) (same : before ++ d :: rest = other ++ d :: others) :
    before = other ∧ rest = others := by
  have cut := cut?_append absent rest
  rw [same, cut?_append alsoAbsent] at cut
  obtain ⟨rfl, rfl⟩ := Prod.mk.inj (Option.some.inj cut)
  exact ⟨rfl, rfl⟩

theorem occurs_eq_true {word text : List Char} : occurs word text = true ↔ word <:+: text := by
  have atStart (text : List Char) : (after? word text).isSome = true ↔ word <+: text := by
    rw [Option.isSome_iff_exists]
    simp only [after?_eq_some]
    exact ⟨fun ⟨rest, whole⟩ => ⟨rest, whole.symm⟩, fun ⟨rest, whole⟩ => ⟨rest, whole.symm⟩⟩
  induction text with
  | nil => simp [occurs]
  | cons c text ih => simp only [occurs, Bool.or_eq_true, atStart, ih, List.infix_cons_iff]

/-- A word without a delimiter that is in a text is on one side of each delimiter. -/
theorem infix_of_append_cons {d : Char} {word before after : List Char} (plain : d ∉ word)
    (inside : word <:+: before ++ d :: after) : word <:+: before ∨ word <:+: after := by
  have noDelimiter {part : List Char} (starts : part <+: d :: after) (within : part ⊆ word) :
      part = [] := by
    cases List.prefix_cons_iff.1 starts with
    | inl empty => exact empty
    | inr begins =>
      obtain ⟨_, rfl, -⟩ := begins
      exact absurd (within List.mem_cons_self) plain
  rcases List.infix_append_iff.1 inside with inBefore | inAfter | ⟨left, right, rfl, ends, starts⟩
  · exact .inl inBefore
  · cases List.infix_cons_iff.1 inAfter with
    | inl starts => exact .inl (noDelimiter starts (List.Subset.refl _) ▸ List.nil_infix)
    | inr inAfter => exact .inr inAfter
  · rw [noDelimiter starts (List.subset_append_right left right), List.append_nil]
    exact .inl ends.isInfix

theorem cutLast?_eq_none {d : Char} {text : List Char} : cutLast? d text = none ↔ d ∉ text := by
  induction text with
  | nil => simp [cutLast?]
  | cons c text ih =>
    simp only [cutLast?, List.mem_cons, not_or]
    split
    · rename_i found
      simp only [reduceCtorEq, false_iff, not_and]
      intro _ absent
      rw [ih.2 absent] at found
      simp at found
    · rename_i absent
      by_cases hc : c = d
      · simp [hc]
      · simp [hc, ih.1 absent, Ne.symm hc]

theorem cutLast?_append {d : Char} {rest : List Char} (absent : d ∉ rest) (before : List Char) :
    cutLast? d (before ++ d :: rest) = some (before, rest) := by
  induction before with
  | nil => simp [cutLast?, cutLast?_eq_none.2 absent]
  | cons c before ih => simp [cutLast?, ih]

theorem replaceChar_append (old : Char) (new a b : List Char) :
    replaceChar old new (a ++ b) = replaceChar old new a ++ replaceChar old new b :=
  List.flatMap_append

theorem replaceChar_of_not_mem {old : Char} {new text : List Char} (h : old ∉ text) :
    replaceChar old new text = text := by
  induction text with
  | nil => rfl
  | cons c text ih =>
    simp only [List.mem_cons, not_or] at h
    have := ih h.2
    simp only [replaceChar] at this
    simp [replaceChar, Ne.symm h.1, this]

theorem splitAll_of_not_mem {d : Char} {piece : List Char} (absent : d ∉ piece) :
    splitAll d piece = [piece] := by
  induction piece with
  | nil => rfl
  | cons c piece ih =>
    simp only [List.mem_cons, not_or] at absent
    simp [splitAll, Ne.symm absent.1, ih absent.2]

theorem splitAll_append {d : Char} {piece : List Char} (absent : d ∉ piece) (rest : List Char) :
    splitAll d (piece ++ d :: rest) = piece :: splitAll d rest := by
  induction piece with
  | nil => simp [splitAll]
  | cons c piece ih =>
    simp only [List.mem_cons, not_or] at absent
    simp [splitAll, Ne.symm absent.1, ih absent.2]

/-- Pieces that are joined by a delimiter that none of them has are cut apart again. -/
theorem splitAll_joinWith {d : Char} {pieces : List (List Char)} (ne : pieces ≠ [])
    (absent : ∀ piece ∈ pieces, d ∉ piece) : splitAll d (joinWith [d] pieces) = pieces := by
  induction pieces with
  | nil => exact absurd rfl ne
  | cons piece pieces ih =>
    have first := absent piece List.mem_cons_self
    cases pieces with
    | nil => exact splitAll_of_not_mem first
    | cons next pieces =>
      rw [joinWith, List.append_assoc, List.singleton_append, splitAll_append first,
        ih (List.cons_ne_nil _ _) fun other member => absent other (List.mem_cons_of_mem _ member)]
      exact List.cons_ne_nil _ _

end SchemaChange.Text
