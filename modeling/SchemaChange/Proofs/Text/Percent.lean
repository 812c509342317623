/-
# SchemaChange.Proofs.Text.Percent — what is percent-encoded is read back

A text is encoded in two layers: its characters in UTF-8, and every byte that is not an
unreserved character as an escape.  Each layer is read back in front of whatever follows.

* `Utf8.decode_encode` — the bytes of a text are read as the text.
* `Percent.bytes_encode` — an encoded text stands for the bytes of the text.
* `Percent.decode_encode`, `decodeForm_encode` — so it is read back, also where plus signs
  stand for spaces, since it has none.
* `Percent.isPlain_of_mem_encode` — an encoded text has no characters but unreserved ones and
  percent signs, so no delimiter is in it.
* `Percent.decode_ne_nil` — something is read of every text that is not empty, however ill-formed
  it is.
-/
import SchemaChange.Text.Case
import SchemaChange.Text.Percent

set_option autoImplicit false

namespace SchemaChange.Text

/-! ## Bytes -/

namespace Utf8

theorem decodeFrom_cons (pending : Option Pending) (byte : Nat) (bytes : List Nat) :
    decodeFrom pending (byte :: bytes) =
      (step pending byte).1 ++ decodeFrom (step pending byte).2 bytes := by
  cases pending <;> rfl

/-- The last byte of a sequence completes its character. -/
theorem decodeFrom_last {bits least greatest byte : Nat} (low : least ≤ byte)
    (high : byte ≤ greatest) (rest : List Nat) :
    decodeFrom (some ⟨bits, 1, least, greatest⟩) (byte :: rest) =
      Char.ofNat (bits * 0x40 + (byte - 0x80)) :: decodeFrom none rest := by
  rw [decodeFrom_cons]
  simp [step, low, high]

/-- A byte in the middle of a sequence adds its bits, and any continuation may follow. -/
theorem decodeFrom_middle {bits missing least greatest byte : Nat} (low : least ≤ byte)
    (high : byte ≤ greatest) (rest : List Nat) :
    decodeFrom (some ⟨bits, missing + 2, least, greatest⟩) (byte :: rest) =
      decodeFrom (some ⟨bits * 0x40 + (byte - 0x80), missing + 1, 0x80, 0xBF⟩) rest := by
  rw [decodeFrom_cons]
  simp [step, low, high]

/-- A byte that begins a longer sequence. -/
theorem decodeFrom_lead {byte : Nat} {pending : Pending} (long : 0x80 ≤ byte)
    (begins : Pending.ofLead? byte = some pending) (rest : List Nat) :
    decodeFrom none (byte :: rest) = decodeFrom (some pending) rest := by
  rw [decodeFrom_cons]
  simp [step, start, Nat.not_lt.2 long, begins]

theorem ofLead?_two {n : Nat} (low : 0x80 ≤ n) (high : n < 0x800) :
    Pending.ofLead? (0xC0 + n / 0x40) = some ⟨n / 0x40, 1, 0x80, 0xBF⟩ := by
  have range : 0xC2 ≤ 0xC0 + n / 0x40 ∧ 0xC0 + n / 0x40 ≤ 0xDF := by omega
  rw [Pending.ofLead?, if_pos range, Nat.add_sub_cancel_left]

/-- The first byte of three begins a sequence that allows the second one.  It leaves out what two
bytes can write, and surrogates. -/
theorem ofLead?_three {n : Nat} (low : 0x800 ≤ n) (high : n < 0x10000)
    (scalar : n < 0xD800 ∨ 0xE000 ≤ n) :
    ∃ least greatest, Pending.ofLead? (0xE0 + n / 0x1000) = some ⟨n / 0x1000, 2, least, greatest⟩ ∧
      least ≤ 0x80 + n / 0x40 % 0x40 ∧ 0x80 + n / 0x40 % 0x40 ≤ greatest := by
  unfold Pending.ofLead?
  rw [if_neg (by omega)]
  by_cases first : n / 0x1000 = 0
  · rw [if_pos (by omega), first]
    exact ⟨_, _, rfl, by omega, by omega⟩
  · rw [if_neg (by omega)]
    by_cases beforeSurrogates : n / 0x1000 = 0xD
    · rw [if_pos (by omega), beforeSurrogates]
      exact ⟨_, _, rfl, by omega, by omega⟩
    · rw [if_neg (by omega), if_pos (by omega), Nat.add_sub_cancel_left]
      exact ⟨_, _, rfl, by omega, by omega⟩

/-- The first byte of four begins a sequence that allows the second one.  It leaves out what three
bytes can write, and what is beyond the last character. -/
theorem ofLead?_four {n : Nat} (low : 0x10000 ≤ n) (high : n < 0x110000) :
    ∃ least greatest,
      Pending.ofLead? (0xF0 + n / 0x40000) = some ⟨n / 0x40000, 3, least, greatest⟩ ∧
      least ≤ 0x80 + n / 0x1000 % 0x40 ∧ 0x80 + n / 0x1000 % 0x40 ≤ greatest := by
  unfold Pending.ofLead?
  rw [if_neg (by omega), if_neg (by omega), if_neg (by omega), if_neg (by omega)]
  by_cases first : n / 0x40000 = 0
  · rw [if_pos (by omega), first]
    exact ⟨_, _, rfl, by omega, by omega⟩
  · rw [if_neg (by omega)]
    by_cases last : n / 0x40000 = 4
    · rw [if_pos (by omega), last]
      exact ⟨_, _, rfl, by omega, by omega⟩
    · rw [if_neg (by omega), if_pos (by omega), Nat.add_sub_cancel_left]
      exact ⟨_, _, rfl, by omega, by omega⟩

/-- **The bytes of a character are read as the character**, whatever follows. -/
theorem decodeFrom_encodeChar (c : Char) (rest : List Nat) :
    decodeFrom none (encodeChar c ++ rest) = c :: decodeFrom none rest := by
  have valid : c.toNat < 0xD800 ∨ 0xDFFF < c.toNat ∧ c.toNat < 0x110000 := c.valid
  have same : Char.ofNat c.toNat = c := Char.ofNat_toNat c
  unfold encodeChar
  generalize c.toNat = n at valid same
  simp only
  split
  · rename_i one
    simp [decodeFrom_cons, step, start, one, same]
  · split
    · rename_i notOne two
      have bits : n / 0x40 * 0x40 + (0x80 + n % 0x40 - 0x80) = n := by omega
      simp only [List.cons_append, List.nil_append]
      rw [decodeFrom_lead (by omega) (ofLead?_two (by omega) two),
        decodeFrom_last (by omega) (by omega), bits, same]
    · split
      · rename_i notOne notTwo three
        obtain ⟨least, greatest, begins, low, high⟩ := ofLead?_three (by omega) three (by omega)
        have bits : (n / 0x1000 * 0x40 + (0x80 + n / 0x40 % 0x40 - 0x80)) * 0x40
            + (0x80 + n % 0x40 - 0x80) = n := by omega
        simp only [List.cons_append, List.nil_append]
        rw [decodeFrom_lead (by omega) begins, decodeFrom_middle low high,
          decodeFrom_last (by omega) (by omega), bits, same]
      · rename_i notOne notTwo notThree
        obtain ⟨least, greatest, begins, low, high⟩ := ofLead?_four (n := n) (by omega) (by omega)
        have bits : ((n / 0x40000 * 0x40 + (0x80 + n / 0x1000 % 0x40 - 0x80)) * 0x40
            + (0x80 + n / 0x40 % 0x40 - 0x80)) * 0x40 + (0x80 + n % 0x40 - 0x80) = n := by omega
        simp only [List.cons_append, List.nil_append]
        rw [decodeFrom_lead (by omega) begins, decodeFrom_middle low high,
          decodeFrom_middle (by omega) (by omega), decodeFrom_last (by omega) (by omega), bits, same]

/-- **The bytes of a text are read as the text.** -/
theorem decode_encode (text : List Char) : decode (encode text) = text := by
  induction text with
  | nil => rfl
  | cons c text ih =>
      have whole : encode (c :: text) = encodeChar c ++ encode text := rfl
      rw [decode, whole, decodeFrom_encodeChar]
      exact congrArg (c :: ·) ih

/-- A byte completes a character, or leaves a sequence pending. -/
theorem step_leaves (pending : Option Pending) (byte : Nat) :
    (step pending byte).1 ≠ [] ∨ (step pending byte).2 ≠ none := by
  have first : (start byte).1 ≠ [] ∨ (start byte).2 ≠ none := by
    unfold start
    split
    · simp
    · split <;> simp
  cases pending with
  | none => exact first
  | some pending =>
      rw [step]
      split
      · split <;> simp
      · simp

/-- Something is read of bytes, and also of a sequence that is never completed. -/
theorem decodeFrom_ne_nil {pending : Option Pending} {bytes : List Nat}
    (given : pending ≠ none ∨ bytes ≠ []) : decodeFrom pending bytes ≠ [] := by
  induction bytes generalizing pending with
  | nil =>
      cases pending with
      | none => simp at given
      | some pending => simp [decodeFrom]
  | cons byte bytes ih =>
      rw [decodeFrom_cons]
      rcases step_leaves pending byte with complete | begun
      · simp [complete]
      · simp [ih (.inl begun)]

theorem lt_of_mem_encodeChar {c : Char} {byte : Nat} (member : byte ∈ encodeChar c) :
    byte < 256 := by
  have valid : c.toNat < 0xD800 ∨ 0xDFFF < c.toNat ∧ c.toNat < 0x110000 := c.valid
  unfold encodeChar at member
  generalize c.toNat = n at valid member
  simp only at member
  split at member
  · rw [List.mem_singleton] at member
    omega
  · split at member
    · simp only [List.mem_cons, List.not_mem_nil, or_false] at member
      omega
    · split at member
      · simp only [List.mem_cons, List.not_mem_nil, or_false] at member
        omega
      · simp only [List.mem_cons, List.not_mem_nil, or_false] at member
        omega

end Utf8

/-! ## Escapes -/

namespace Percent

theorem toNat_lt_of_isUnreserved {c : Char} (plain : isUnreserved c = true) : c.toNat < 0x80 := by
  simp only [isUnreserved, Bool.or_eq_true, beq_iff_eq, isAlphanum_iff, isAlpha_iff, isUpper_iff,
    isLower_iff, isDigit_iff] at plain
  rcases plain with (((((upper | lower) | digit) | rfl) | rfl) | rfl) | rfl
  · omega
  · omega
  · omega
  all_goals decide

theorem hexValue?_hexDigit {n : Nat} (small : n < 16) : hexValue? (hexDigit n) = some n := by
  revert n
  decide

theorem isUnreserved_hexDigit {n : Nat} (small : n < 16) : isUnreserved (hexDigit n) = true := by
  revert n
  decide

theorem bytes_cons {c : Char} (plain : c ≠ '%') (rest : List Char) :
    bytes (c :: rest) = c.toNat :: bytes rest := by
  rw [bytes]
  simp [plain]

/-- **An escaped byte is read as the byte**, whatever follows. -/
theorem bytes_escapeByte {byte : Nat} (small : byte < 256) (rest : List Char) :
    bytes (escapeByte byte ++ rest) = byte :: bytes rest := by
  have high := hexValue?_hexDigit (n := byte / 16) (by omega)
  have low := hexValue?_hexDigit (n := byte % 16) (by omega)
  have whole : byte / 16 * 16 + byte % 16 = byte := by omega
  simp only [escapeByte, List.cons_append, List.nil_append]
  rw [bytes]
  simp only [hexByte?, high, low, whole]

theorem bytes_flatMap_escapeByte {run : List Nat} (small : ∀ byte ∈ run, byte < 256)
    (rest : List Char) : bytes (run.flatMap escapeByte ++ rest) = run ++ bytes rest := by
  induction run with
  | nil => rfl
  | cons byte run ih =>
      rw [List.flatMap_cons, List.append_assoc, bytes_escapeByte (small byte List.mem_cons_self),
        ih fun other member => small other (List.mem_cons_of_mem _ member), List.cons_append]

/-- **An encoded text stands for the bytes of the text.** -/
theorem bytes_encode (text : List Char) : bytes (encode text) = Utf8.encode text := by
  induction text with
  | nil => rfl
  | cons c text ih =>
      have whole : encode (c :: text) = encode [c] ++ encode text := encode_append [c] text
      have first : encode [c] =
          if isUnreserved c then [c] else (Utf8.encodeChar c).flatMap escapeByte := by
        simp [encode]
      have bytesOf : Utf8.encode (c :: text) = Utf8.encodeChar c ++ Utf8.encode text := rfl
      rw [whole, first, bytesOf]
      split
      · rename_i plain
        have ascii := toNat_lt_of_isUnreserved plain
        have notPercent : c ≠ '%' := by
          rintro rfl
          exact absurd plain (by decide)
        have single : Utf8.encodeChar c = [c.toNat] := by simp [Utf8.encodeChar, ascii]
        rw [List.singleton_append, bytes_cons notPercent, ih, single, List.singleton_append]
      · rw [bytes_flatMap_escapeByte fun _ member => Utf8.lt_of_mem_encodeChar member, ih]

/-- Whether a character can be in an encoded text. -/
def isPlain (c : Char) : Bool :=
  isUnreserved c || c == '%'

theorem isPlain_of_mem_encode {text : List Char} {c : Char} (member : c ∈ encode text) :
    isPlain c = true := by
  obtain ⟨origin, -, member⟩ := List.mem_flatMap.1 member
  split at member
  · rename_i plain
    rw [List.mem_singleton.1 member, isPlain, plain, Bool.true_or]
  · obtain ⟨byte, inside, member⟩ := List.mem_flatMap.1 member
    have small := Utf8.lt_of_mem_encodeChar inside
    simp only [escapeByte, List.mem_cons, List.not_mem_nil, or_false] at member
    rcases member with rfl | rfl | rfl
    · rfl
    · rw [isPlain, isUnreserved_hexDigit (by omega), Bool.true_or]
    · rw [isPlain, isUnreserved_hexDigit (by omega), Bool.true_or]

theorem toNat_lt_of_isPlain {c : Char} (plain : isPlain c = true) : c.toNat < 0x80 := by
  simp only [isPlain, Bool.or_eq_true, beq_iff_eq] at plain
  rcases plain with plain | rfl
  · exact toNat_lt_of_isUnreserved plain
  · decide

/-- A character that cannot be in an encoded text is in none. -/
theorem not_mem_encode {c : Char} (special : isPlain c = false) (text : List Char) :
    c ∉ encode text := by
  intro member
  rw [isPlain_of_mem_encode member] at special
  cases special

theorem encode_ne_nil {text : List Char} (ne : text ≠ []) : encode text ≠ [] := by
  obtain ⟨c, text, rfl⟩ := List.exists_cons_of_ne_nil ne
  intro none
  have same := bytes_encode (c :: text)
  rw [none] at same
  have read := Utf8.decode_encode (c :: text)
  rw [← same] at read
  cases read

/-! ## Reading back -/

theorem decodeFrom_of_ascii {text : List Char} (ascii : ∀ c ∈ text, c.toNat < 0x80)
    (stretch : List Char) : decodeFrom stretch text = flush (text.reverse ++ stretch) := by
  induction text generalizing stretch with
  | nil => rfl
  | cons c text ih =>
      rw [decodeFrom, if_pos (ascii c List.mem_cons_self),
        ih fun other member => ascii other (List.mem_cons_of_mem _ member)]
      simp

/-- An ASCII text is read as one stretch. -/
theorem decode_of_ascii {text : List Char} (ascii : ∀ c ∈ text, c.toNat < 0x80) :
    decode text = Utf8.decode (bytes text) := by
  rw [decode, decodeFrom_of_ascii ascii, flush]
  simp

/-- **An encoded text is read back.** -/
theorem decode_encode (text : List Char) : decode (encode text) = text := by
  rw [decode_of_ascii fun _ member => toNat_lt_of_isPlain (isPlain_of_mem_encode member),
    bytes_encode, Utf8.decode_encode]

/-- An encoded text has no plus signs, so it is read back also where these stand for spaces. -/
theorem decodeForm_encode (text : List Char) : decodeForm (encode text) = text := by
  have plain : ∀ c ∈ encode text, (if c = '+' then ' ' else c) = id c := by
    intro c member
    have plus : c ≠ '+' := by
      rintro rfl
      exact not_mem_encode (by decide) text member
    exact if_neg plus
  rw [decodeForm, List.map_congr_left plain, List.map_id, decode_encode]

/-! ## Something is read -/

theorem bytes_ne_nil {text : List Char} (ne : text ≠ []) : bytes text ≠ [] := by
  unfold bytes
  split
  · split <;> simp
  · simp
  · exact absurd rfl ne

theorem flush_ne_nil {stretch : List Char} (ne : stretch ≠ []) : flush stretch ≠ [] :=
  Utf8.decodeFrom_ne_nil (.inr (bytes_ne_nil (by simpa using ne)))

theorem decodeFrom_ne_nil {stretch text : List Char} (given : stretch ≠ [] ∨ text ≠ []) :
    decodeFrom stretch text ≠ [] := by
  induction text generalizing stretch with
  | nil => exact flush_ne_nil (by simpa using given)
  | cons c text ih =>
      rw [decodeFrom]
      split
      · exact ih (.inl (by simp))
      · simp

/-- **Something is read of every text that is not empty**: an ill-formed byte is replaced, and not
dropped. -/
theorem decode_ne_nil {text : List Char} (ne : text ≠ []) : decode text ≠ [] :=
  decodeFrom_ne_nil (.inr ne)

theorem decodeForm_ne_nil {text : List Char} (ne : text ≠ []) : decodeForm text ≠ [] :=
  decode_ne_nil (by simpa using ne)

end Percent

end SchemaChange.Text
