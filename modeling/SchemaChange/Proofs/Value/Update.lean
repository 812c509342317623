/-
# SchemaChange.Proofs.Value.Update — entries overridden and extended by named values

Entries are updated by one value after the other, each in the place of its key if the key is
already there.  Said of all values at once: every entry keeps its place and has its new value if
there is one, and what is new comes behind, in order (`Entries.overriddenBy`).

* `insert_text_eq` — what binding one name does.
* `update_named` — an update with named values is the overriding by them.
* `get?_overriddenBy` — a name has its new value, or else its old one.
-/
import Mathlib.Data.List.Nodup
import SchemaChange.Proofs.Value.Entries

set_option autoImplicit false

namespace SchemaChange.Entries

/-- Values by name as entries. -/
def named (values : List (String × Value)) : Entries :=
  values.map fun entry => (.text entry.1, entry.2)

/-- The texts that keys are made of. -/
def textKeys (entries : Entries) : List String :=
  entries.filterMap fun entry => entry.1.text?

/-- The value of an entry among new values by name, or else its old one. -/
def newValue (values : List (String × Value)) (entry : Value × Value) : Value :=
  (entry.1.text?.bind fun name => values.lookup name).getD entry.2

/-- Entries with new values in the place of old ones, and behind them what is new. -/
def overriddenBy (entries : Entries) (values : List (String × Value)) : Entries :=
  entries.map (fun entry => (entry.1, newValue values entry))
    ++ named (values.filter fun value => !entries.contains value.1)

variable {key : String} {entries : Entries} {values : List (String × Value)}

/-! ## Looking up a name -/

theorem get?_cons_same {k : Value} (same : k.text? = some key) (value : Value) (rest : Entries) :
    get? ((k, value) :: rest) key = some value := by
  rw [get?, lookup, if_pos ((Value.sameKey_text_iff key k).2 same)]

theorem get?_cons_other {k : Value} (other : k.text? ≠ some key) (value : Value) (rest : Entries) :
    get? ((k, value) :: rest) key = get? rest key := by
  rw [get?, lookup, if_neg fun same => other ((Value.sameKey_text_iff key k).1 same), get?]

theorem get?_named (values : List (String × Value)) (key : String) :
    (named values).get? key = values.lookup key := by
  induction values with
  | nil => rfl
  | cons entry rest ih =>
      obtain ⟨name, value⟩ := entry
      have head : named ((name, value) :: rest) = (.text name, value) :: named rest := rfl
      rw [head, List.lookup_cons]
      by_cases same : key = name
      · rw [get?_cons_same (by rw [same]; rfl), same]
        simp
      · have other : (Value.text name).text? ≠ some key := fun eq => same (Option.some.inj eq).symm
        have apart : (key == name) = false := by simpa using same
        rw [get?_cons_other other, ih, apart]

theorem contains_cons_same {k : Value} (same : k.text? = some key) (value : Value)
    (rest : Entries) : contains ((k, value) :: rest) key = true := by
  rw [contains, get?_cons_same same, Option.isSome_some]

theorem contains_cons_other {k : Value} (other : k.text? ≠ some key) (value : Value)
    (rest : Entries) : contains ((k, value) :: rest) key = contains rest key := by
  rw [contains, get?_cons_other other, contains]

/-- Whether a name is there depends on the texts that the keys are made of. -/
theorem contains_iff (entries : Entries) (key : String) :
    entries.contains key = true ↔ key ∈ entries.textKeys := by
  induction entries with
  | nil => simp [contains, get?, lookup, textKeys]
  | cons entry rest ih =>
      obtain ⟨k, value⟩ := entry
      by_cases same : k.text? = some key
      · simp [contains_cons_same same, textKeys, same]
      · rw [contains_cons_other same, ih]
        cases text : k.text? with
        | none => simp [textKeys, text]
        | some name =>
            have apart : key ≠ name := fun eq => same (by rw [text, eq])
            simp [textKeys, text, apart]

theorem get?_append (first second : Entries) (key : String) :
    (first ++ second).get? key = (first.get? key).or (second.get? key) := by
  induction first with
  | nil => rfl
  | cons entry rest ih =>
      obtain ⟨k, value⟩ := entry
      by_cases same : k.text? = some key
      · rw [List.cons_append, get?_cons_same same, get?_cons_same same, Option.some_or]
      · rw [List.cons_append, get?_cons_other same, get?_cons_other same, ih]

theorem get?_put_other {other : String} (apart : key ≠ other) (value : Value)
    (entries : Entries) : (entries.put other value).get? key = entries.get? key :=
  get?_congr apart (erase_insert_same rfl value entries)

/-! ## Updating -/

/-- Binding a name changes its value in its place, or puts it at the end. -/
theorem insert_text_eq (distinct : entries.textKeys.Nodup) (key : String) (value : Value) :
    insert (.text key) value entries =
      if entries.contains key then
        entries.map fun entry => (entry.1, if entry.1.text? = some key then value else entry.2)
      else entries ++ [(.text key, value)] := by
  induction entries with
  | nil => rfl
  | cons entry rest ih =>
      obtain ⟨k, old⟩ := entry
      by_cases same : k.text? = some key
      · have later : key ∉ textKeys rest := by
          have head : textKeys ((k, old) :: rest) = key :: textKeys rest := by simp [textKeys, same]
          rw [head] at distinct
          exact (List.nodup_cons.1 distinct).1
        have unchanged : rest.map (fun entry =>
            (entry.1, if entry.1.text? = some key then value else entry.2)) = rest := by
          refine (List.map_congr_left ?_).trans (List.map_id rest)
          intro entry member
          have other : entry.1.text? ≠ some key := fun eq =>
            later (List.mem_filterMap.2 ⟨entry, member, eq⟩)
          rw [if_neg other, id_eq]
        rw [insert, if_pos ((Value.sameKey_text_iff key k).2 same),
          if_pos (contains_cons_same same old rest), List.map_cons, if_pos same, unchanged]
      · have tail : (textKeys rest).Nodup :=
          distinct.sublist ((List.sublist_cons_self _ _).filterMap _)
        rw [insert, if_neg fun eq => same ((Value.sameKey_text_iff key k).1 eq), ih tail,
          contains_cons_other same]
        split
        · rw [List.map_cons, if_neg same]
        · rfl

theorem textKeys_insert (distinct : entries.textKeys.Nodup) (key : String) (value : Value) :
    (insert (.text key) value entries).textKeys =
      if entries.contains key then entries.textKeys else entries.textKeys ++ [key] := by
  rw [insert_text_eq distinct]
  split
  · simp [textKeys, List.filterMap_map]
  · simp [textKeys, Value.text?]

theorem nodup_textKeys_insert (distinct : entries.textKeys.Nodup) (key : String) (value : Value) :
    (insert (.text key) value entries).textKeys.Nodup := by
  rw [textKeys_insert distinct]
  split
  · exact distinct
  · rename_i absent
    rw [contains_iff] at absent
    refine List.nodup_append.2 ⟨distinct, List.nodup_singleton key, ?_⟩
    rintro name member other single rfl
    exact absent (List.mem_singleton.1 single ▸ member)

theorem contains_congr {first second : Entries} (same : first.textKeys = second.textKeys)
    (key : String) : first.contains key = second.contains key := by
  rw [Bool.eq_iff_iff, contains_iff, contains_iff, same]

theorem newValue_cons_other {entry : Value × Value} (other : entry.1.text? ≠ some key)
    (value : Value) (rest : List (String × Value)) :
    newValue ((key, value) :: rest) entry = newValue rest entry := by
  unfold newValue
  cases text : entry.1.text? with
  | none => rfl
  | some name =>
      have apart : (name == key) = false := by
        simpa using fun same : name = key => other (by rw [text, same])
      simp [List.lookup_cons, apart]

/-- Overriding by a first value and then by the others is overriding by all of them. -/
theorem overriddenBy_insert (distinct : entries.textKeys.Nodup) (value : Value)
    {rest : List (String × Value)} (new : key ∉ rest.map Prod.fst) :
    (insert (.text key) value entries).overriddenBy rest
      = entries.overriddenBy ((key, value) :: rest) := by
  have absent : rest.lookup key = none := by
    rw [List.lookup_eq_none_iff]
    intro other member
    simpa using fun same : key = other.1 => new (same ▸ List.mem_map_of_mem (f := Prod.fst) member)
  rw [insert_text_eq distinct]
  by_cases here : entries.contains key = true
  · -- the value stands in the place of the old one
    have keys : textKeys (entries.map fun entry =>
        (entry.1, if entry.1.text? = some key then value else entry.2)) = entries.textKeys := by
      simp [textKeys, List.filterMap_map]
    rw [if_pos here, overriddenBy, overriddenBy, List.map_map]
    congr 1
    · refine List.map_congr_left fun entry _ => ?_
      by_cases same : entry.1.text? = some key
      · simp [same, newValue, absent]
      · rw [newValue_cons_other same]
        simp [same, newValue]
    · rw [List.filter_cons_of_neg (by simp [here])]
      simp only [contains_congr keys]
  · -- the value is put at the end
    have others : ∀ entry ∈ entries, entry.1.text? ≠ some key := fun entry member same =>
      here ((contains_iff entries key).2 (List.mem_filterMap.2 ⟨entry, member, same⟩))
    have last : newValue rest (.text key, value) = value := by
      simp [newValue, Value.text?, absent]
    have front : entries.map (fun entry => (entry.1, newValue ((key, value) :: rest) entry))
        = entries.map fun entry => (entry.1, newValue rest entry) :=
      List.map_congr_left fun entry member => by rw [newValue_cons_other (others entry member)]
    have back : rest.filter (fun other => !contains (entries ++ [(.text key, value)]) other.1)
        = rest.filter fun other => !entries.contains other.1 := by
      refine List.filter_congr fun other member => ?_
      have apart : other.1 ≠ key := fun same =>
        new (same ▸ List.mem_map_of_mem (f := Prod.fst) member)
      rw [Bool.eq_iff_iff]
      simp [← Bool.not_eq_true, contains_iff, textKeys, Value.text?, apart]
    rw [if_neg here, overriddenBy, overriddenBy, List.map_append, front, back,
      List.filter_cons_of_pos (by simp [here]), List.append_assoc]
    simp [named, last]

/-- **An update with named values overrides and extends by all of them at once.** -/
theorem update_named (distinct : entries.textKeys.Nodup) (names : (values.map Prod.fst).Nodup) :
    entries.update (named values) = entries.overriddenBy values := by
  induction values generalizing entries with
  | nil =>
      have same : entries.map (fun entry => (entry.1, newValue [] entry)) = entries := by
        refine (List.map_congr_left fun entry _ => ?_).trans (List.map_id entries)
        obtain ⟨k, value⟩ := entry
        cases text : k.text? <;> simp [newValue, text]
      rw [overriddenBy, same]
      exact (List.append_nil entries).symm
  | cons entry rest ih =>
      obtain ⟨name, value⟩ := entry
      obtain ⟨new, names⟩ := List.nodup_cons.1 names
      show update (insert (.text name) value entries) (named rest) = _
      rw [ih (nodup_textKeys_insert distinct name value) names, overriddenBy_insert distinct value new]

/-- Values that are kept by their names are found by the names that are kept. -/
theorem lookup_filter (keep : String → Bool) (values : List (String × Value)) (key : String) :
    (values.filter fun value => keep value.1).lookup key
      = if keep key then values.lookup key else none := by
  induction values with
  | nil => simp
  | cons entry rest ih =>
      obtain ⟨name, value⟩ := entry
      by_cases same : key = name
      · subst same
        cases kept : keep key with
        | true => simp [kept]
        | false => simp [kept, ih]
      · have apart : (key == name) = false := by simpa using same
        cases kept : keep name with
        | true => simp [kept, List.lookup_cons, apart, ih]
        | false => simp [kept, List.lookup_cons, apart, ih]

/-- A name has its new value, or else its old one. -/
theorem get?_overriddenBy (entries : Entries) (values : List (String × Value)) (key : String) :
    (entries.overriddenBy values).get? key = (values.lookup key).or (entries.get? key) := by
  have front : get? (entries.map fun entry => (entry.1, newValue values entry)) key
      = (entries.get? key).map ((values.lookup key).getD ·) := by
    induction entries with
    | nil => rfl
    | cons entry rest ih =>
        obtain ⟨k, old⟩ := entry
        by_cases same : k.text? = some key
        · rw [List.map_cons, get?_cons_same same, get?_cons_same same]
          simp [newValue, same]
        · rw [List.map_cons, get?_cons_other same, get?_cons_other same, ih]
  rw [overriddenBy, get?_append, front, get?_named, lookup_filter (fun name => !entries.contains name),
    contains]
  cases entries.get? key <;> cases values.lookup key <;> rfl

end SchemaChange.Entries
