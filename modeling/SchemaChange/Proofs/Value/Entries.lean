/-
# SchemaChange.Proofs.Value.Entries — entries apart from one key

`Entries.erase` shows what entries are apart from one key.  Binding that key changes
nothing else (`erase_insert_same`), and what else is done to entries can as well be done
without the key (`erase_insert_other`, `erase_update`, `erase_filter`).  So entries that
agree apart from a key still agree after the same work on both.

Keys are compared by their texts: `sameKey_text_iff`.
-/
import SchemaChange.Value.Basic

set_option autoImplicit false

namespace SchemaChange

namespace Value

/-- A text is the same key as what is made of the text. -/
theorem sameKey_text_iff (text : String) (key : Value) :
    sameKey (.text text) key = true ↔ key.text? = some text := by
  cases key with
  | text other =>
      simp only [sameKey, text?, beq_iff_eq, Option.some.injEq]
      exact eq_comm
  | kind k =>
      simp only [sameKey, text?, beq_iff_eq, Option.some.injEq]
      exact eq_comm
  | _ => simp [sameKey, text?]

theorem sameKey_text_right_iff (text : String) (key : Value) :
    sameKey key (.text text) = true ↔ key.text? = some text := by
  cases key <;> simp [sameKey, text?]

/-- What is one and the same key is made of one text, or neither is made of a text. -/
theorem text?_of_sameKey {key other : Value} (same : sameKey key other = true) :
    key.text? = other.text? := by
  cases key <;> cases other <;> simp_all [sameKey, text?]

end Value

namespace Entries

variable {key : String} {entries others : Entries}

theorem erase_cons_same {k : Value} (value : Value) (same : k.text? = some key) (rest : Entries) :
    erase ((k, value) :: rest) key = erase rest key := by
  simp [erase, (Value.sameKey_text_iff key k).2 same]

theorem erase_cons_other {k : Value} (value : Value) (other : k.text? ≠ some key) (rest : Entries) :
    erase ((k, value) :: rest) key = (k, value) :: erase rest key := by
  have apart : Value.sameKey (.text key) k = false := by
    rw [← Bool.not_eq_true, Value.sameKey_text_iff]
    exact other
  simp [erase, apart]

/-- Binding a key changes nothing apart from the key. -/
theorem erase_insert_same {k : Value} (same : k.text? = some key) (value : Value)
    (entries : Entries) : erase (insert k value entries) key = erase entries key := by
  induction entries with
  | nil => exact erase_cons_same value same []
  | cons entry rest ih =>
      obtain ⟨k', value'⟩ := entry
      by_cases here : Value.sameKey k k' = true
      · have same' : k'.text? = some key := (Value.text?_of_sameKey here).symm.trans same
        rw [insert, if_pos here, erase_cons_same _ same', erase_cons_same _ same']
      · rw [insert, if_neg here]
        by_cases same' : k'.text? = some key
        · rw [erase_cons_same _ same', erase_cons_same _ same', ih]
        · rw [erase_cons_other _ same', erase_cons_other _ same', ih]

/-- Any other key is bound apart from the key. -/
theorem erase_insert_other {k : Value} (other : k.text? ≠ some key) (value : Value)
    (entries : Entries) : erase (insert k value entries) key = insert k value (erase entries key) := by
  induction entries with
  | nil => exact erase_cons_other value other []
  | cons entry rest ih =>
      obtain ⟨k', value'⟩ := entry
      by_cases here : Value.sameKey k k' = true
      · have other' : k'.text? ≠ some key := Value.text?_of_sameKey here ▸ other
        rw [insert, if_pos here, erase_cons_other _ other', erase_cons_other _ other', insert,
          if_pos here]
      · rw [insert, if_neg here]
        by_cases same' : k'.text? = some key
        · rw [erase_cons_same _ same', erase_cons_same _ same', ih]
        · rw [erase_cons_other _ same', erase_cons_other _ same', insert, if_neg here, ih]

/-- Entries are overridden and extended apart from the key. -/
theorem erase_update (entries others : Entries) :
    erase (entries.update others) key = (erase entries key).update (erase others key) := by
  induction others generalizing entries with
  | nil => rfl
  | cons entry rest ih =>
      obtain ⟨k, value⟩ := entry
      show erase (update (insert k value entries) rest) key = _
      rw [ih]
      by_cases same : k.text? = some key
      · rw [erase_insert_same same, erase_cons_same _ same]
      · rw [erase_insert_other same, erase_cons_other _ same]
        rfl

theorem erase_filter (keep : Value × Value → Bool) (entries : Entries) :
    erase (entries.filter keep) key = (erase entries key).filter keep := by
  rw [erase, erase, List.filter_filter, List.filter_filter]
  exact List.filter_congr fun _ _ => Bool.and_comm _ _

/-- What is kept of entries does not depend on a key of which nothing is kept. -/
theorem filter_of_erase {keep : Value × Value → Bool}
    (dropped : ∀ k value, k.text? = some key → keep (k, value) = false) (entries : Entries) :
    (erase entries key).filter keep = entries.filter keep := by
  rw [erase, List.filter_filter]
  refine List.filter_congr fun entry _ => ?_
  by_cases same : entry.1.text? = some key
  · rw [dropped entry.1 entry.2 same, Bool.false_and]
  · have apart : Value.sameKey (.text key) entry.1 = false := by
      rw [← Bool.not_eq_true, Value.sameKey_text_iff]
      exact same
    simp [apart]

/-- Whether all other keys pass does not depend on a key that passes. -/
theorem all_of_erase {passes : Value × Value → Bool}
    (admitted : ∀ k value, k.text? = some key → passes (k, value) = true) (entries : Entries) :
    (erase entries key).all passes = entries.all passes := by
  induction entries with
  | nil => rfl
  | cons entry rest ih =>
      obtain ⟨k, value⟩ := entry
      by_cases same : k.text? = some key
      · rw [erase_cons_same _ same, List.all_cons, admitted k value same, Bool.true_and, ih]
      · rw [erase_cons_other _ same, List.all_cons, List.all_cons, ih]

/-- Another key has its value apart from the key. -/
theorem get?_erase {other : String} (apart : other ≠ key) (entries : Entries) :
    (erase entries key).get? other = entries.get? other := by
  induction entries with
  | nil => rfl
  | cons entry rest ih =>
      obtain ⟨k, value⟩ := entry
      by_cases same : k.text? = some key
      · have missed : ¬ Value.sameKey (.text other) k = true := by
          rw [Value.sameKey_text_iff, same]
          simpa using apart.symm
        rw [erase_cons_same _ same, ih, get?, get?, lookup, if_neg missed]
      · rw [erase_cons_other _ same, get?, get?, lookup, lookup]
        rw [get?, get?] at ih
        rw [ih]

theorem erase_erase (first second : String) (entries : Entries) :
    erase (erase entries first) second = erase (erase entries second) first :=
  erase_filter _ entries

theorem erase_put {other : String} (apart : other ≠ key) (value : Value) (entries : Entries) :
    erase (entries.put other value) key = (erase entries key).put other value :=
  erase_insert_other (by simpa [Value.text?] using apart) value entries

/-- Entries that agree apart from a key agree on any other key. -/
theorem get?_congr {other : String} (apart : other ≠ key)
    (agree : erase entries key = erase others key) : entries.get? other = others.get? other := by
  rw [← get?_erase apart entries, agree, get?_erase apart]

theorem getD_congr {other : String} (apart : other ≠ key)
    (agree : erase entries key = erase others key) (default : Value) :
    entries.getD other default = others.getD other default := by
  rw [getD, get?_congr apart agree, getD]

end Entries

end SchemaChange
