/-
# SchemaChange.Proofs.Statement.Literals — reading back the texts in a statement

A text is inlined between single quotes with every quote in it doubled, and texts in
a list have commas between them.  `readTexts?` reads such a list: it cuts at the
commas outside quotes (`splitOutside`) and undoes the doubling (`readQuoted?`).

* `readTexts?_quoted` — a list of quoted texts is read back as these texts.
* `stripBrackets_eq_self_iff` — replacing brackets leaves a text alone exactly if it has
  none, whatever engine replaces them.
* `stripBrackets_joinWith_quoted` — replacing brackets in a list of quoted texts gives the
  list of the texts with their brackets replaced.
-/
import SchemaChange.Operation.Rendering
import SchemaChange.Statement.Template

set_option autoImplicit false

namespace SchemaChange.Statement

open SchemaChange.Text

/-! ## Lists of quoted texts -/

/-- A text put in front of the first of some pieces. -/
def onto (front : List Char) : List (List Char) → List (List Char)
  | [] => [front]
  | piece :: pieces => (front ++ piece) :: pieces

theorem onto_onto (first second : List Char) (pieces : List (List Char)) :
    onto first (onto second pieces) = onto (first ++ second) pieces := by
  cases pieces with
  | nil => rfl
  | cons piece pieces => simp [onto]

/-- The pieces of a text between its commas, those inside single quotes apart. -/
def splitOutside (inside : Bool) : List Char → List (List Char)
  | [] => [[]]
  | c :: text =>
    if c = ',' ∧ inside = false then [] :: splitOutside false text
    else onto [c] (splitOutside (if c = '\'' then !inside else inside) text)

/-- A text of which no comma is outside quotes and which closes its quotes. -/
def Whole (text : List Char) : Prop :=
  ∀ rest, splitOutside false (text ++ rest) = onto text (splitOutside false rest)

/-- A list of whole texts is cut into these texts again. -/
theorem splitOutside_joinWith {texts : List (List Char)} (some : texts ≠ [])
    (whole : ∀ text ∈ texts, Whole text) : splitOutside false (joinWith [','] texts) = texts := by
  induction texts with
  | nil => exact absurd rfl some
  | cons text texts ih =>
      have here := whole text List.mem_cons_self
      cases texts with
      | nil =>
          have alone := here []
          rw [List.append_nil] at alone
          rw [joinWith, alone]
          simp [splitOutside, onto]
      | cons next texts =>
          have later := ih (by simp) fun other member => whole other (List.mem_cons_of_mem _ member)
          rw [joinWith, List.append_assoc, here]
          · rw [List.singleton_append, splitOutside, if_pos ⟨rfl, rfl⟩, later]
            simp [onto]
          · simp

/-- A text between single quotes, in which every single quote is written twice. -/
def quoted (text : List Char) : List Char :=
  '\'' :: (replaceChar '\'' ['\'', '\''] text ++ ['\''])

theorem double_cons (c : Char) (text : List Char) :
    replaceChar '\'' ['\'', '\''] (c :: text) =
      (if c = '\'' then ['\'', '\''] else [c]) ++ replaceChar '\'' ['\'', '\''] text := rfl

/-- Inside its quotes, a doubled quote leaves the quotes and enters them again. -/
theorem splitOutside_quoted (text rest : List Char) :
    splitOutside true (replaceChar '\'' ['\'', '\''] text ++ '\'' :: rest) =
      onto (replaceChar '\'' ['\'', '\''] text ++ ['\'']) (splitOutside false rest) := by
  induction text with
  | nil => simp [replaceChar, splitOutside]
  | cons c text ih =>
      rw [double_cons]
      by_cases quote : c = '\''
      · simp [quote, splitOutside, ih, onto_onto]
      · simp [quote, splitOutside, ih, onto_onto]

theorem whole_quoted (text : List Char) : Whole (quoted text) := by
  intro rest
  have inner := splitOutside_quoted text rest
  rw [quoted, List.cons_append, splitOutside, if_neg (by simp), List.append_assoc]
  simp [inner, onto_onto]

/-- The text behind its opening quote, up to the quote that closes it at the end; `pending` says
whether a quote has just been read, which closes the text unless another one follows. -/
def readInside? (pending : Bool) : List Char → Option (List Char)
  | [] => if pending then some [] else none
  | c :: rest =>
    if c = '\'' then
      if pending then (readInside? false rest).map ('\'' :: ·) else readInside? true rest
    else if pending then none
    else (readInside? false rest).map (c :: ·)

/-- The text that stands between single quotes. -/
def readQuoted? : List Char → Option (List Char)
  | [] => none
  | c :: rest => if c = '\'' then readInside? false rest else none

theorem readInside?_double (text : List Char) :
    readInside? false (replaceChar '\'' ['\'', '\''] text ++ ['\'']) = some text := by
  induction text with
  | nil => rfl
  | cons c text ih =>
      rw [double_cons]
      by_cases quote : c = '\''
      · simp [quote, readInside?, ih]
      · simp [quote, readInside?, ih]

theorem readQuoted?_quoted (text : List Char) : readQuoted? (quoted text) = some text := by
  rw [quoted, readQuoted?, if_pos rfl]
  exact readInside?_double text

/-- The texts of a list of texts between single quotes. -/
def readTexts? (list : List Char) : Option (List (List Char)) :=
  if list.isEmpty then some [] else (splitOutside false list).mapM readQuoted?

theorem mapM_readQuoted? (texts : List (List Char)) :
    (texts.map quoted).mapM readQuoted? = some texts := by
  induction texts with
  | nil => rfl
  | cons text texts ih =>
      rw [List.map_cons, List.mapM_cons, readQuoted?_quoted, ih]
      rfl

theorem joinWith_quoted_ne_nil (text : List Char) (texts : List (List Char)) :
    (joinWith [','] ((text :: texts).map quoted)).isEmpty = false := by
  cases texts <;> rfl

/-- **A list of quoted texts is read back.** -/
theorem readTexts?_quoted (texts : List (List Char)) :
    readTexts? (joinWith [','] (texts.map quoted)) = some texts := by
  cases texts with
  | nil => rfl
  | cons text texts =>
      have cut : splitOutside false (joinWith [','] ((text :: texts).map quoted))
          = (text :: texts).map quoted := by
        refine splitOutside_joinWith (by simp) fun piece member => ?_
        obtain ⟨inner, -, rfl⟩ := List.mem_map.1 member
        exact whole_quoted inner
      rw [readTexts?, joinWith_quoted_ne_nil, if_neg (by simp), cut, mapM_readQuoted?]

theorem toList_sqlText (text : String) : (sqlText text).toList = quoted text.toList := by
  simp [sqlText, quoted]

/-- Texts are inlined into a statement as a list of quoted texts. -/
theorem toList_literals (texts : List String) :
    (Engine.literals (texts.map Value.text)).toList =
      joinWith [','] ((texts.map String.toList).map quoted) := by
  rw [Engine.literals, toList_intercalate, List.map_map, List.map_map, List.map_map]
  congr 1
  exact List.map_congr_left fun text _ => toList_sqlText text

/-! ## Brackets -/

/-- A text without brackets. -/
def Unbracketed (text : List Char) : Prop :=
  '[' ∉ text ∧ ']' ∉ text

instance (text : List Char) : Decidable (Unbracketed text) :=
  inferInstanceAs (Decidable (_ ∧ _))

theorem not_mem_replaceChar {old other : Char} {new text : List Char} (absent : other ∉ text)
    (clean : other ∉ new) : other ∉ replaceChar old new text := by
  unfold replaceChar
  intro member
  obtain ⟨c, given, found⟩ := List.mem_flatMap.1 member
  split at found
  · exact clean found
  · rw [List.mem_singleton] at found
    exact absent (found ▸ given)

theorem not_mem_replaceChar_self {old : Char} {new : List Char} (clean : old ∉ new)
    (text : List Char) : old ∉ replaceChar old new text := by
  unfold replaceChar
  intro member
  obtain ⟨c, -, found⟩ := List.mem_flatMap.1 member
  split at found
  · exact clean found
  · rename_i different
    exact different (List.mem_singleton.1 found).symm

variable {mark : List Char}

/-- Nothing is left to replace after brackets have been replaced by what has none. -/
theorem unbracketed_stripBrackets (clean : Unbracketed mark) (text : List Char) :
    Unbracketed (stripBrackets mark text) :=
  ⟨not_mem_replaceChar (not_mem_replaceChar_self clean.1 text) clean.1,
    not_mem_replaceChar_self clean.2 _⟩

/-- **Replacing brackets leaves alone the texts without brackets, and no others.** -/
theorem stripBrackets_eq_self_iff (clean : Unbracketed mark) (text : List Char) :
    stripBrackets mark text = text ↔ Unbracketed text := by
  constructor
  · intro same
    rw [← same]
    exact unbracketed_stripBrackets clean text
  · intro absent
    exact stripBrackets_of_not_mem absent.1 absent.2

theorem stripBrackets_append (first rest : List Char) :
    stripBrackets mark (first ++ rest) = stripBrackets mark first ++ stripBrackets mark rest := by
  simp only [stripBrackets, replaceChar_append]

theorem stripBrackets_cons (clean : Unbracketed mark) (c : Char) (text : List Char) :
    stripBrackets mark (c :: text) =
      (if c = '[' ∨ c = ']' then mark else [c]) ++ stripBrackets mark text := by
  rw [← List.singleton_append, stripBrackets_append]
  congr 1
  unfold stripBrackets
  by_cases opening : c = '['
  · subst opening
    have first : replaceChar '[' mark ['['] = mark := by simp [replaceChar]
    rw [first, replaceChar_of_not_mem clean.2]
    simp
  · have first : replaceChar '[' mark [c] = [c] := by simp [replaceChar, opening]
    rw [first]
    by_cases closing : c = ']'
    · simp [replaceChar, closing]
    · simp [replaceChar, opening, closing]

/-- Replacing brackets by what has no quote and doubling quotes can change places. -/
theorem stripBrackets_double (clean : Unbracketed mark) (quoteless : '\'' ∉ mark)
    (text : List Char) :
    stripBrackets mark (replaceChar '\'' ['\'', '\''] text) =
      replaceChar '\'' ['\'', '\''] (stripBrackets mark text) := by
  induction text with
  | nil => rfl
  | cons c text ih =>
      rw [double_cons, stripBrackets_append, ih, stripBrackets_cons clean, replaceChar_append]
      congr 1
      by_cases quote : c = '\''
      · subst quote
        simp [stripBrackets, replaceChar]
      · rw [if_neg quote, ← List.append_nil (stripBrackets mark [c]), stripBrackets_cons clean]
        split
        · rw [replaceChar_of_not_mem quoteless]
          simp [stripBrackets, replaceChar]
        · simp [stripBrackets, replaceChar, quote]

theorem stripBrackets_quoted (clean : Unbracketed mark) (quoteless : '\'' ∉ mark)
    (text : List Char) :
    stripBrackets mark (quoted text) = quoted (stripBrackets mark text) := by
  rw [quoted, stripBrackets_cons clean, stripBrackets_append, stripBrackets_double clean quoteless]
  rfl

/-- **Replacing brackets in a list of quoted texts is replacing them in the texts.** -/
theorem stripBrackets_joinWith_quoted (clean : Unbracketed mark) (quoteless : '\'' ∉ mark)
    (texts : List (List Char)) :
    stripBrackets mark (joinWith [','] (texts.map quoted)) =
      joinWith [','] ((texts.map (stripBrackets mark)).map quoted) := by
  induction texts with
  | nil => rfl
  | cons text texts ih =>
      cases texts with
      | nil => exact stripBrackets_quoted clean quoteless text
      | cons next texts =>
          simp only [List.map_cons, joinWith, stripBrackets_append] at ih ⊢
          rw [ih, stripBrackets_quoted clean quoteless]
          rfl

end SchemaChange.Statement
