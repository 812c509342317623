/-
# SchemaChange.Proofs.Dialect.Constraint — a constraint says exactly what is asked of it

The constraint of a column is a flat text: the words of the flags that are in effect, in a fixed
order, and the default value behind them, which may be any text.  No word begins like another one,
so the text is read from the left in one way only, and what is asked of the column can be told from
it.  A default value cannot be mistaken for a word, since its own word stands before it.

* `Apart`, `chosen_eq_of_join_eq` — which words of a list stand in a text can be read from it.
* `constraintWords_eq` — the words of a constraint are those of its flags, in order.
* `constraint_says_what_is_asked` — two constraints are the same text exactly if their flags and
  default values are the same.
-/
import SchemaChange.Proofs.Dialect.PrimaryKey

set_option autoImplicit false

namespace SchemaChange

open SchemaChange.Text

/-! ## Words that are read from the left -/

namespace Text

/-- Two words of which neither begins like the other. -/
def Apart (first second : List Char) : Prop :=
  ¬ first <+: second ∧ ¬ second <+: first

instance (first second : List Char) : Decidable (Apart first second) :=
  inferInstanceAs (Decidable (¬ _ ∧ ¬ _))

variable {first second : List Char}

/-- No word begins like the empty one. -/
theorem Apart.ne_nil (apart : Apart first second) : first ≠ [] := by
  rintro rfl
  exact apart.1 List.nil_prefix

/-- Texts that begin with such words are not the same. -/
theorem Apart.append_ne (apart : Apart first second) (rest other : List Char) :
    first ++ rest ≠ second ++ other := by
  intro same
  have begins : first <+: second ++ other := ⟨rest, same⟩
  rcases List.prefix_or_prefix_of_prefix begins (List.prefix_append second other) with before | after
  · exact apart.1 before
  · exact apart.2 after

/-- What stands behind the first of several texts that are joined. -/
theorem joinWith_cons (separator text : List Char) (rest : List (List Char)) :
    joinWith separator (text :: rest)
      = text ++ (if rest = [] then [] else separator ++ joinWith separator rest) := by
  cases rest with
  | nil => simp [joinWith]
  | cons next rest => simp [joinWith]

/-- The texts behind a common first one are joined to the same text, if the whole is. -/
theorem joinWith_cons_inj {separator text : List Char} (separator_ne : separator ≠ [])
    {rest other : List (List Char)}
    (same : joinWith separator (text :: rest) = joinWith separator (text :: other)) :
    joinWith separator rest = joinWith separator other := by
  rw [joinWith_cons, joinWith_cons] at same
  have behind := List.append_cancel_left same
  by_cases none : rest = []
  · by_cases noOther : other = []
    · rw [none, noOther]
    · rw [if_pos none, if_neg noOther] at behind
      simp [separator_ne] at behind
  · by_cases noOther : other = []
    · rw [if_neg none, if_pos noOther] at behind
      simp [separator_ne] at behind
    · rw [if_neg none, if_neg noOther] at behind
      exact List.append_cancel_left behind

/-- Joined texts that begin with different such words are not the same. -/
theorem joinWith_ne_of_apart {separator word : List Char} {rest other : List (List Char)}
    (word_ne : word ≠ []) (apart : ∀ next ∈ other.head?, Apart word next) :
    joinWith separator (word :: rest) ≠ joinWith separator other := by
  rw [joinWith_cons]
  cases other with
  | nil => simp [joinWith, word_ne]
  | cons next other =>
      rw [joinWith_cons]
      exact (apart next rfl).append_ne _ _

end Text

/-! ## Words that are chosen by flags -/

section Chosen

variable {α : Type} {order : List (String × (α → Bool))} {last : String}

/-- The words of an order whose flags are set. -/
def chosenWords (order : List (String × (α → Bool))) (flags : α) : List String :=
  (order.filter fun entry => entry.2 flags).map Prod.fst

/-- A last word with an arbitrary text behind it, or nothing. -/
def ending (last : String) : Option String → List String
  | some text => [last, text]
  | none => []

/-- The first of the chosen words is one of the order, or the last word if there is none. -/
theorem mem_of_head_chosenWords {flags : α} {text : Option String} {word : String}
    (first : word ∈ (chosenWords order flags ++ ending last text).head?) :
    word ∈ order.map Prod.fst ++ [last] := by
  cases chosen : chosenWords order flags with
  | nil =>
      rw [chosen] at first
      cases text with
      | none => cases first
      | some text =>
          obtain rfl : last = word := Option.some.inj first
          exact List.mem_append_right _ List.mem_cons_self
  | cons next rest =>
      rw [chosen] at first
      obtain rfl : next = word := Option.some.inj first
      have inOrder : next ∈ chosenWords order flags := chosen ▸ List.mem_cons_self
      obtain ⟨entry, kept, rfl⟩ := List.mem_map.1 inOrder
      exact List.mem_append_left _ (List.mem_map_of_mem (List.mem_filter.1 kept).1)

/-- **Which words of an order stand in a text can be read from it**, and what stands behind the
last one, if no word begins like another. -/
theorem chosen_eq_of_join_eq (apart : (order.map Prod.fst ++ [last]).Pairwise fun first second =>
      Apart first.toList second.toList) {flags others : α} {text other : Option String}
    (same : joinWith [' '] ((chosenWords order flags ++ ending last text).map String.toList)
      = joinWith [' '] ((chosenWords order others ++ ending last other).map String.toList)) :
    (∀ entry ∈ order, entry.2 flags = entry.2 others) ∧ text = other := by
  induction order with
  | nil =>
      refine ⟨by simp, ?_⟩
      cases text with
      | none =>
          cases other with
          | none => rfl
          | some other => simp [chosenWords, ending, joinWith] at same
      | some text =>
          cases other with
          | none => simp [chosenWords, ending, joinWith] at same
          | some other =>
              have same : text.toList = other.toList := by
                simpa [chosenWords, ending, joinWith] using same
              rw [String.toList_inj.1 same]
  | cons entry rest ih =>
      obtain ⟨word, flag⟩ := entry
      obtain ⟨before, later⟩ := List.pairwise_cons.1 apart
      have word_ne : word.toList ≠ [] := (before last (by simp)).ne_nil
      -- a text that begins with the word is not one that begins with a later one
      have differs (chosen skipped : α) (front back : Option String) :
          joinWith [' '] ((word :: (chosenWords rest chosen ++ ending last front)).map String.toList)
            ≠ joinWith [' '] ((chosenWords rest skipped ++ ending last back).map String.toList) := by
        apply joinWith_ne_of_apart word_ne
        intro next starts
        rw [List.head?_map] at starts
        obtain ⟨following, first, rfl⟩ := Option.map_eq_some_iff.1 starts
        exact before following (mem_of_head_chosenWords first)
      have here (chosen : α) : chosenWords ((word, flag) :: rest) chosen
          = if flag chosen then word :: chosenWords rest chosen else chosenWords rest chosen := by
        unfold chosenWords
        by_cases set : flag chosen = true <;> simp [set]
      rw [here, here] at same
      cases setFirst : flag flags <;> cases setSecond : flag others
      case true.true =>
        rw [setFirst, setSecond, if_pos rfl, if_pos rfl] at same
        obtain ⟨agree, ends⟩ := ih later (joinWith_cons_inj (by simp) same)
        exact ⟨List.forall_mem_cons.2 ⟨setFirst.trans setSecond.symm, agree⟩, ends⟩
      case false.false =>
        rw [setFirst, setSecond] at same
        obtain ⟨agree, ends⟩ := ih later same
        exact ⟨List.forall_mem_cons.2 ⟨setFirst.trans setSecond.symm, agree⟩, ends⟩
      case true.false =>
        rw [setFirst, setSecond] at same
        exact absurd same (differs _ _ _ _)
      case false.true =>
        rw [setFirst, setSecond] at same
        exact absurd same.symm (differs _ _ _ _)

end Chosen

/-! ## What a constraint says -/

/-- What the constraint of a column is asked to say, apart from the default value. -/
@[ext]
structure ConstraintFlags where
  unsigned : Bool
  primaryKey : Bool
  autoIncrement : Bool
  notNull : Bool
  unique : Bool
  null : Bool

namespace Engine

/-- The flags of a column that are in effect.  Only MySQL has unsigned numbers and marks columns
that may be null; a column numbers itself only where it declares the primary key. -/
def effectiveFlags (engine : Engine) (spec : ColumnSpec) (emitPrimaryKey : Bool) :
    ConstraintFlags where
  unsigned := spec.unsigned.truthy && decide (engine = .mysql)
  primaryKey := spec.primaryKey.truthy && emitPrimaryKey
  autoIncrement := spec.autoIncrement.truthy && (spec.primaryKey.truthy && emitPrimaryKey)
  notNull := spec.notNull.truthy
  unique := spec.unique.truthy
  null := spec.null.truthy && decide (engine = .mysql)

/-- The words of a constraint in their fixed order, each with its flag. -/
def constraintOrder : Engine → List (String × (ConstraintFlags → Bool))
  | .postgres =>
    [("SERIAL", (·.autoIncrement)), ("PRIMARY KEY", (·.primaryKey)), ("NOT NULL", (·.notNull)),
     ("UNIQUE", (·.unique))]
  | .mysql =>
    [("UNSIGNED", (·.unsigned)), ("PRIMARY KEY", (·.primaryKey)),
     ("AUTO_INCREMENT", (·.autoIncrement)), ("NOT NULL", (·.notNull)), ("UNIQUE", (·.unique)),
     ("NULL", (·.null))]
  | .sqlite =>
    [("PRIMARY KEY", (·.primaryKey)), ("AUTOINCREMENT", (·.autoIncrement)),
     ("NOT NULL", (·.notNull)), ("UNIQUE", (·.unique))]

/-- The text of the default value of a column, if it has one. -/
def defaultText? (spec : ColumnSpec) : Option String :=
  if spec.defaultValue.isNull then none else some spec.defaultValue.sqlDefault

theorem defaultWords_eq (spec : ColumnSpec) :
    defaultWords spec = ending "DEFAULT" (defaultText? spec) := by
  unfold defaultWords defaultText?
  split <;> rfl

/-- No word of a constraint begins like another one. -/
theorem constraintOrder_apart (engine : Engine) :
    (engine.constraintOrder.map Prod.fst ++ ["DEFAULT"]).Pairwise fun first second =>
      Apart first.toList second.toList := by
  cases engine <;> decide

/-- **The words of a constraint are those of its flags**, in their order. -/
theorem constraintWords_eq (engine : Engine) (spec : ColumnSpec) (emitPrimaryKey : Bool) :
    engine.constraintWords spec emitPrimaryKey
      = chosenWords engine.constraintOrder (engine.effectiveFlags spec emitPrimaryKey) := by
  cases engine <;>
    simp only [constraintWords, declaredWords, keyDeclaration, effectiveFlags, constraintOrder,
      chosenWords, dialect, Dialect.postgres, Dialect.mysql, Dialect.sqlite, List.filter_cons,
      List.filter_nil] <;>
    cases spec.unsigned.truthy <;> cases spec.primaryKey.truthy && emitPrimaryKey <;>
    cases spec.autoIncrement.truthy <;> cases spec.notNull.truthy <;> cases spec.unique.truthy <;>
    cases spec.null.truthy <;> rfl

/-- Flags in effect that agree wherever the engine has a word for them are the same. -/
theorem effectiveFlags_eq {engine : Engine} {first second : ColumnSpec}
    {emitFirst emitSecond : Bool}
    (agree : ∀ entry ∈ engine.constraintOrder,
      entry.2 (engine.effectiveFlags first emitFirst)
        = entry.2 (engine.effectiveFlags second emitSecond)) :
    engine.effectiveFlags first emitFirst = engine.effectiveFlags second emitSecond := by
  have wordless (only : engine ≠ .mysql) (spec : ColumnSpec) (emit : Bool) :
      (engine.effectiveFlags spec emit).unsigned = false
        ∧ (engine.effectiveFlags spec emit).null = false := by
    simp [effectiveFlags, only]
  cases engine with
  | postgres =>
      obtain ⟨unsignedFirst, nullFirst⟩ := wordless (by decide) first emitFirst
      obtain ⟨unsignedSecond, nullSecond⟩ := wordless (by decide) second emitSecond
      simp only [constraintOrder, List.forall_mem_cons] at agree
      obtain ⟨autoIncrement, primaryKey, notNull, unique, -⟩ := agree
      exact ConstraintFlags.ext (unsignedFirst.trans unsignedSecond.symm) primaryKey autoIncrement
        notNull unique (nullFirst.trans nullSecond.symm)
  | mysql =>
      simp only [constraintOrder, List.forall_mem_cons] at agree
      obtain ⟨unsigned, primaryKey, autoIncrement, notNull, unique, null, -⟩ := agree
      exact ConstraintFlags.ext unsigned primaryKey autoIncrement notNull unique null
  | sqlite =>
      obtain ⟨unsignedFirst, nullFirst⟩ := wordless (by decide) first emitFirst
      obtain ⟨unsignedSecond, nullSecond⟩ := wordless (by decide) second emitSecond
      simp only [constraintOrder, List.forall_mem_cons] at agree
      obtain ⟨primaryKey, autoIncrement, notNull, unique, -⟩ := agree
      exact ConstraintFlags.ext (unsignedFirst.trans unsignedSecond.symm) primaryKey autoIncrement
        notNull unique (nullFirst.trans nullSecond.symm)

/-- The constraint of a column is the words of its flags, and then its default value, with a space
between neighbours. -/
theorem constraint_eq (engine : Engine) (spec : ColumnSpec) (emitPrimaryKey : Bool) :
    engine.dialect.constraint spec emitPrimaryKey = .ok (" ".intercalate
      (chosenWords engine.constraintOrder (engine.effectiveFlags spec emitPrimaryKey)
        ++ ending "DEFAULT" (defaultText? spec))) := by
  rw [Dialect.constraint, constraintTokens_eq, Value.join_map_text, constraintWords_eq,
    defaultWords_eq]

/-- **A constraint says exactly what is asked of its column.**  It is rendered for every column, as
the words of the flags in effect in a fixed order, followed by the default value; and it is the
same text for two columns exactly if the same flags are in effect and both have no default value
or default values with the same text. -/
theorem constraint_says_what_is_asked (engine : Engine) (first second : ColumnSpec)
    (emitFirst emitSecond : Bool) :
    engine.dialect.constraint first emitFirst = .ok (" ".intercalate
        (chosenWords engine.constraintOrder (engine.effectiveFlags first emitFirst)
          ++ ending "DEFAULT" (defaultText? first)))
      ∧ (engine.dialect.constraint first emitFirst = engine.dialect.constraint second emitSecond ↔
          engine.effectiveFlags first emitFirst = engine.effectiveFlags second emitSecond
            ∧ defaultText? first = defaultText? second) := by
  refine ⟨constraint_eq engine first emitFirst, ?_⟩
  rw [constraint_eq, constraint_eq]
  constructor
  · intro same
    have texts := congrArg String.toList (Except.ok.inj same)
    rw [toList_intercalate, toList_intercalate] at texts
    obtain ⟨agree, default⟩ := chosen_eq_of_join_eq engine.constraintOrder_apart texts
    exact ⟨effectiveFlags_eq agree, default⟩
  · rintro ⟨flags, default⟩
    rw [flags, default]

end Engine

end SchemaChange
