/-
# SchemaChange.Proofs.ServerVersion.Leftmost — the leftmost version in a text

A `Place` of a text is one where three runs of digits follow each other, joined by points, the last
of them as long as possible.  The first two cannot be longer either, since a point is no digit.  A
text may have many places, overlapping ones among them: every suffix of the first run begins
another.  The search finds the leftmost, and its runs are read as decimal numbers.

* `find?_eq_some_iff`, `find?_eq_none_iff` — the search finds the runs of the leftmost place, and
  nothing where there is none.
* `ofValue_leftmost` — so does the reading of a text whose runs are not too long, with the numbers
  of the runs.
* `le_iff` — versions are compared by their numbers, and the first difference decides.
-/
import SchemaChange.ServerVersion
import Mathlib.Data.List.Induction
import Mathlib.Data.List.TakeWhile
import Mathlib.Data.Nat.Digits.Defs

set_option autoImplicit false

namespace SchemaChange

open SchemaChange.Text

namespace Text

/-- A run of digits of any script. -/
structure IsRun (digits : List Char) : Prop where
  nonempty : digits ≠ []
  all : ∀ c ∈ digits, isDigit c = true

/-- No digit comes first in a text. -/
def Ended (text : List Char) : Prop :=
  ∀ c, text.head? = some c → isDigit c = false

/-- The runs of digits in a text have at most so many digits. -/
def RunsWithin (limit : Nat) (text : List Char) : Prop :=
  ∀ run, run <:+: text → IsRun run → run.length ≤ limit

theorem runsWithin_of_length {limit : Nat} {text : List Char} (short : text.length ≤ limit) :
    RunsWithin limit text :=
  fun _ inside _ => inside.length_le.trans short

/-- The number that digits write in the decimal system, the most significant digit first. -/
def decimal (digits : List Char) : Nat :=
  Nat.ofDigits 10 (digits.reverse.map fun c => (digitValue? c).getD 0)

/-- Digits are read from the left as the number that they write. -/
theorem digitsValue_eq_decimal (digits : List Char) : digitsValue digits = decimal digits := by
  induction digits using List.reverseRecOn with
  | nil => rfl
  | append_singleton digits c ih =>
      have next : digitsValue (digits ++ [c]) = digitsValue digits * 10 + (digitValue? c).getD 0 := by
        rw [digitsValue, List.foldl_append]
        rfl
      rw [next, ih, decimal, decimal, List.reverse_append, List.reverse_singleton,
        List.singleton_append, List.map_cons, Nat.ofDigits_cons]
      ring

theorem isDigit_point : isDigit '.' = false := by decide

theorem ended_point (rest : List Char) : Ended ('.' :: rest) := by
  intro c first
  obtain rfl := Option.some.inj first
  exact isDigit_point

end Text

namespace ServerVersion

/-! ## Runs at the start of a text -/

variable {text digits rest : List Char}

/-- A run is taken as long as possible. -/
theorem run?_eq_some_iff :
    run? text = some (digits, rest) ↔ IsRun digits ∧ text = digits ++ rest ∧ Ended rest := by
  constructor
  · intro taken
    unfold run? at taken
    split at taken
    · cases taken
    · rename_i ne
      obtain ⟨rfl, rfl⟩ := Prod.mk.inj (Option.some.inj taken)
      refine ⟨⟨ne, fun c member => List.mem_takeWhile_imp member⟩, ?_, ?_⟩
      · rw [List.takeWhile_append_dropWhile]
      · intro c first
        have stopped := List.head?_dropWhile_not isDigit text
        rw [first] at stopped
        simpa using stopped
  · rintro ⟨⟨ne, all⟩, rfl, ended⟩
    have taken : (digits ++ rest).takeWhile isDigit = digits := by
      rw [List.takeWhile_append_of_pos all]
      cases rest with
      | nil => exact List.append_nil digits
      | cons c rest => rw [List.takeWhile_cons_of_neg (by simp [ended c rfl]), List.append_nil]
    have left : (digits ++ rest).dropWhile isDigit = rest := by
      rw [List.dropWhile_append_of_pos all]
      cases rest with
      | nil => rfl
      | cons c rest => rw [List.dropWhile_cons_of_neg (by simp [ended c rfl])]
    unfold run?
    rw [taken, left]
    cases digits with
    | nil => exact absurd rfl ne
    | cons c digits => rfl

/-- A run that a point follows needs nothing else to be as long as possible. -/
theorem dottedRun?_eq_some_iff :
    dottedRun? text = some (digits, rest) ↔ IsRun digits ∧ text = digits ++ '.' :: rest := by
  constructor
  · intro taken
    unfold dottedRun? at taken
    split at taken
    · rename_i found after run
      obtain ⟨rfl, rfl⟩ := Prod.mk.inj (Option.some.inj taken)
      obtain ⟨isRun, whole, -⟩ := run?_eq_some_iff.1 run
      exact ⟨isRun, whole⟩
    · cases taken
  · rintro ⟨isRun, rfl⟩
    have run := run?_eq_some_iff.2 ⟨isRun, rfl, ended_point rest⟩
    unfold dottedRun?
    rw [run]
    rfl

/-- The three runs at the start of a text. -/
theorem runs?_eq_some_iff {major minor patch : List Char} :
    runs? text = some (major, minor, patch) ↔
      IsRun major ∧ IsRun minor ∧ IsRun patch ∧ ∃ after,
        text = major ++ '.' :: (minor ++ '.' :: (patch ++ after)) ∧ Ended after := by
  constructor
  · intro taken
    simp only [runs?, Option.bind_eq_bind, Option.bind_eq_some_iff, Prod.exists, Option.some.injEq,
      Prod.mk.injEq] at taken
    obtain ⟨_, _, first, _, _, second, _, after, third, rfl, rfl, rfl⟩ := taken
    obtain ⟨majorRun, rfl⟩ := dottedRun?_eq_some_iff.1 first
    obtain ⟨minorRun, rfl⟩ := dottedRun?_eq_some_iff.1 second
    obtain ⟨patchRun, rfl, ended⟩ := run?_eq_some_iff.1 third
    exact ⟨majorRun, minorRun, patchRun, after, rfl, ended⟩
  · rintro ⟨majorRun, minorRun, patchRun, after, rfl, ended⟩
    have first : dottedRun? (major ++ '.' :: (minor ++ '.' :: (patch ++ after))) =
        some (major, minor ++ '.' :: (patch ++ after)) :=
      dottedRun?_eq_some_iff.2 ⟨majorRun, rfl⟩
    have second : dottedRun? (minor ++ '.' :: (patch ++ after)) = some (minor, patch ++ after) :=
      dottedRun?_eq_some_iff.2 ⟨minorRun, rfl⟩
    have third : run? (patch ++ after) = some (patch, after) :=
      run?_eq_some_iff.2 ⟨patchRun, rfl, ended⟩
    simp only [runs?, first, second, third, Option.bind_eq_bind, Option.bind_some]

/-! ## Places -/

/-- A place of a text with three runs of digits, joined by points. -/
structure Place (text : List Char) where
  before : List Char
  major : List Char
  minor : List Char
  patch : List Char
  after : List Char
  whole : text = before ++ (major ++ '.' :: (minor ++ '.' :: (patch ++ after)))
  major_run : IsRun major
  minor_run : IsRun minor
  patch_run : IsRun patch
  longest : Ended after

namespace Place

/-- The runs of a place. -/
def runs (place : Place text) : List Char × List Char × List Char :=
  (place.major, place.minor, place.patch)

/-- The version that the runs of a place write. -/
def version (place : Place text) : ServerVersion :=
  ⟨decimal place.major, decimal place.minor, decimal place.patch⟩

/-- No other place of the text begins further to the left. -/
def Leftmost (place : Place text) : Prop :=
  ∀ other : Place text, place.before.length ≤ other.before.length

/-- A place behind another character. -/
def behind (place : Place rest) (c : Char) : Place (c :: rest) where
  before := c :: place.before
  major := place.major
  minor := place.minor
  patch := place.patch
  after := place.after
  whole := by rw [List.cons_append, ← place.whole]
  major_run := place.major_run
  minor_run := place.minor_run
  patch_run := place.patch_run
  longest := place.longest

theorem not_nil (place : Place []) : False := by
  have length := congrArg List.length place.whole
  simp at length

/-- The runs of a place at the start are those at the start of the text. -/
theorem runs?_of_start {place : Place text} (start : place.before = []) :
    runs? text = some place.runs := by
  refine runs?_eq_some_iff.2 ⟨place.major_run, place.minor_run, place.patch_run, place.after, ?_,
    place.longest⟩
  have whole := place.whole
  rwa [start, List.nil_append] at whole

theorem exists_of_runs? {runs : List Char × List Char × List Char} (taken : runs? text = some runs) :
    ∃ place : Place text, place.before = [] ∧ place.runs = runs := by
  obtain ⟨major, minor, patch⟩ := runs
  obtain ⟨majorRun, minorRun, patchRun, after, whole, ended⟩ := runs?_eq_some_iff.1 taken
  exact ⟨⟨[], major, minor, patch, after, whole, majorRun, minorRun, patchRun, ended⟩, rfl, rfl⟩

/-- A place is at the start of a text, or behind its first character. -/
theorem start_or_behind {c : Char} (place : Place (c :: rest)) :
    place.before = [] ∨ ∃ later : Place rest,
      later.runs = place.runs ∧ place.before.length = later.before.length + 1 := by
  cases start : place.before with
  | nil => exact .inl rfl
  | cons first before =>
      have whole := place.whole
      rw [start, List.cons_append] at whole
      obtain ⟨-, same⟩ := List.cons.inj whole
      exact .inr ⟨⟨before, place.major, place.minor, place.patch, place.after, same,
        place.major_run, place.minor_run, place.patch_run, place.longest⟩, rfl, rfl⟩

end Place

/-! ## The search -/

theorem find?_eq_none_iff : find? text = none ↔ ¬ Nonempty (Place text) := by
  induction text with
  | nil => exact ⟨fun _ ⟨place⟩ => place.not_nil, fun _ => rfl⟩
  | cons c rest ih =>
      rw [find?]
      cases taken : runs? (c :: rest) with
      | some runs =>
          obtain ⟨place, -, -⟩ := Place.exists_of_runs? taken
          simpa using ⟨place⟩
      | none =>
          show find? rest = none ↔ _
          rw [ih, not_iff_not]
          constructor
          · rintro ⟨place⟩
            exact ⟨place.behind c⟩
          · rintro ⟨place⟩
            rcases place.start_or_behind with start | ⟨later, -, -⟩
            · rw [Place.runs?_of_start start] at taken
              cases taken
            · exact ⟨later⟩

/-- **The search finds the runs of the leftmost place.** -/
theorem find?_eq_some_iff {runs : List Char × List Char × List Char} :
    find? text = some runs ↔ ∃ place : Place text, place.Leftmost ∧ place.runs = runs := by
  induction text with
  | nil =>
      constructor
      · intro found
        cases found
      · rintro ⟨place, -, -⟩
        exact place.not_nil.elim
  | cons c rest ih =>
      rw [find?]
      cases taken : runs? (c :: rest) with
      | some first =>
          show some first = some runs ↔ _
          constructor
          · rintro ⟨⟩
            obtain ⟨place, start, same⟩ := Place.exists_of_runs? taken
            refine ⟨place, fun other => ?_, same⟩
            rw [start]
            exact Nat.zero_le _
          · rintro ⟨place, leftmost, rfl⟩
            -- the place at the start leaves the leftmost no room
            obtain ⟨atStart, start, -⟩ := Place.exists_of_runs? taken
            have short := leftmost atStart
            rw [start, List.length_nil, Nat.le_zero, List.length_eq_zero_iff] at short
            rw [← taken, Place.runs?_of_start short]
      | none =>
          have noStart (place : Place (c :: rest)) : place.before ≠ [] := by
            intro start
            rw [Place.runs?_of_start start] at taken
            cases taken
          show find? rest = some runs ↔ _
          rw [ih]
          constructor
          · rintro ⟨place, leftmost, same⟩
            refine ⟨place.behind c, fun other => ?_, same⟩
            obtain ⟨later, -, length⟩ := other.start_or_behind.resolve_left (noStart other)
            rw [length]
            exact Nat.succ_le_succ (leftmost later)
          · rintro ⟨place, leftmost, same⟩
            obtain ⟨later, sameRuns, length⟩ := place.start_or_behind.resolve_left (noStart place)
            refine ⟨later, fun other => ?_, sameRuns.trans same⟩
            have bound := leftmost (other.behind c)
            rw [length] at bound
            exact Nat.le_of_succ_le_succ bound

/-! ## Reading a text -/

theorem readRun_of_short {limit : Nat} (short : limit ≤ Numeral.maxDigits)
    (within : digits.length ≤ limit) : readRun digits = .ok (decimal digits) := by
  have fits : ¬ Numeral.maxDigits < digits.length := by omega
  rw [readRun, Numeral.boundedValue, if_neg fits, digitsValue_eq_decimal]

/-- The runs of a place are within what the runs of its text are within. -/
theorem read_place {limit : Nat} (short : limit ≤ Numeral.maxDigits) (within : RunsWithin limit text)
    {place : Place text} (leftmost : place.Leftmost) : read text = .ok (some place.version) := by
  have found := find?_eq_some_iff.2 ⟨place, leftmost, rfl⟩
  have major : place.major <:+: text :=
    ⟨place.before, '.' :: (place.minor ++ '.' :: (place.patch ++ place.after)),
      by rw [List.append_assoc, ← place.whole]⟩
  have minor : place.minor <:+: text :=
    ⟨place.before ++ (place.major ++ ['.']), '.' :: (place.patch ++ place.after), by
      conv_rhs => rw [place.whole]
      simp⟩
  have patch : place.patch <:+: text :=
    ⟨place.before ++ (place.major ++ '.' :: (place.minor ++ ['.'])), place.after, by
      conv_rhs => rw [place.whole]
      simp⟩
  rw [read, found, Place.runs]
  simp only [readRun_of_short short (within _ major place.major_run),
    readRun_of_short short (within _ minor place.minor_run),
    readRun_of_short short (within _ patch place.patch_run)]
  rfl

theorem ofValue_text (text : String) : ofValue (.text text) = read text.toList := by
  by_cases empty : text = ""
  · subst empty
    rfl
  · have full : (Value.text text).truthy = true := by simpa [Value.truthy] using empty
    rw [ofValue, full]
    rfl

/-- **A text is read as the version at its leftmost place**, and as none exactly if it has no
place. -/
theorem ofValue_leftmost {limit : Nat} (short : limit ≤ Numeral.maxDigits) {text : String}
    (within : RunsWithin limit text.toList) :
    ∃ version, ofValue (.text text) = .ok version ∧
      (∀ found, version = some found ↔
        ∃ place : Place text.toList, place.Leftmost ∧ place.version = found) ∧
      (version = none ↔ ¬ Nonempty (Place text.toList)) := by
  rw [ofValue_text]
  cases found : find? text.toList with
  | none =>
      have nowhere := find?_eq_none_iff.1 found
      have unread : read text.toList = .ok none := by rw [read, found]
      refine ⟨none, unread, fun version => ⟨nofun, ?_⟩, iff_of_true rfl nowhere⟩
      rintro ⟨place, -, -⟩
      exact absurd ⟨place⟩ nowhere
  | some runs =>
      obtain ⟨place, leftmost, -⟩ := find?_eq_some_iff.1 found
      have taken := read_place short within leftmost
      refine ⟨some place.version, taken, fun version => ⟨?_, ?_⟩, ⟨nofun, fun nowhere => ?_⟩⟩
      · intro same
        exact ⟨place, leftmost, Option.some.inj same⟩
      · rintro ⟨other, alsoLeftmost, rfl⟩
        exact Except.ok.inj (taken.symm.trans (read_place short within alsoLeftmost))
      · exact absurd ⟨place⟩ nowhere

/-! ## Comparing -/

/-- The numbers of a version, the most significant first. -/
def numbers (version : ServerVersion) : List Nat :=
  [version.major, version.minor, version.patch]

/-- A version is at most another unless the other comes before, by the first number in which they
differ. -/
theorem le_iff (a b : ServerVersion) :
    a.le b = true ↔ ¬ List.Lex (· < ·) b.numbers a.numbers := by
  simp only [le, numbers, List.cons_lex_cons_iff, List.not_lex_nil, and_false, or_false,
    Bool.or_eq_true, Bool.and_eq_true, decide_eq_true_eq, beq_iff_eq]
  omega

end ServerVersion

end SchemaChange
