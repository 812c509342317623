/-
# SchemaChange.Text.Utf8 — reading bytes as UTF-8, with replacement of what is ill-formed

`decode` reads well-formed sequences as characters and puts U+FFFD in the place
of every maximal part that cannot be continued to a well-formed sequence: a
truncated sequence counts once, however many of its bytes are there, and a byte
that cannot start a sequence counts alone.  `encode` writes the bytes of a
character.
-/

set_option autoImplicit false

namespace SchemaChange.Text.Utf8

/-- The bytes of a character, as numbers below 256. -/
def encodeChar (c : Char) : List Nat :=
  let n := c.toNat
  if n < 0x80 then [n]
  else if n < 0x800 then [0xC0 + n / 0x40, 0x80 + n % 0x40]
  else if n < 0x10000 then [0xE0 + n / 0x1000, 0x80 + n / 0x40 % 0x40, 0x80 + n % 0x40]
  else [0xF0 + n / 0x40000, 0x80 + n / 0x1000 % 0x40, 0x80 + n / 0x40 % 0x40, 0x80 + n % 0x40]

/-- The bytes of a text. -/
def encode (text : List Char) : List Nat :=
  text.flatMap encodeChar

/-- A sequence that has begun: the bits read so far, how many bytes are missing, and the least
and greatest value of the next one. -/
structure Pending where
  bits : Nat
  missing : Nat
  least : Nat
  greatest : Nat
  deriving DecidableEq, Repr

/-- What a byte begins: `none` for a byte that cannot begin a longer sequence. -/
def Pending.ofLead? (byte : Nat) : Option Pending :=
  if 0xC2 ≤ byte ∧ byte ≤ 0xDF then some ⟨byte - 0xC0, 1, 0x80, 0xBF⟩
  else if byte = 0xE0 then some ⟨0, 2, 0xA0, 0xBF⟩
  else if byte = 0xED then some ⟨0xD, 2, 0x80, 0x9F⟩
  else if 0xE1 ≤ byte ∧ byte ≤ 0xEF then some ⟨byte - 0xE0, 2, 0x80, 0xBF⟩
  else if byte = 0xF0 then some ⟨0, 3, 0x90, 0xBF⟩
  else if byte = 0xF4 then some ⟨4, 3, 0x80, 0x8F⟩
  else if 0xF1 ≤ byte ∧ byte ≤ 0xF3 then some ⟨byte - 0xF0, 3, 0x80, 0xBF⟩
  else none

/-- The character that stands for an ill-formed part. -/
def replacement : Char := Char.ofNat 0xFFFD

/-- Reads a byte that starts a sequence: characters that are complete, and what has begun. -/
def start (byte : Nat) : List Char × Option Pending :=
  if byte < 0x80 then ([Char.ofNat byte], none)
  else match Pending.ofLead? byte with
    | some pending => ([], some pending)
    | none => ([replacement], none)

/-- Reads one byte: characters that are complete, and what is pending after it. -/
def step : Option Pending → Nat → List Char × Option Pending
  | none, byte => start byte
  | some pending, byte =>
    if pending.least ≤ byte ∧ byte ≤ pending.greatest then
      let bits := pending.bits * 0x40 + (byte - 0x80)
      if pending.missing ≤ 1 then ([Char.ofNat bits], none)
      else ([], some ⟨bits, pending.missing - 1, 0x80, 0xBF⟩)
    else
      let next := start byte
      (replacement :: next.1, next.2)

/-- Reads bytes after what is pending. -/
def decodeFrom : Option Pending → List Nat → List Char
  | none, [] => []
  | some _, [] => [replacement]
  | pending, byte :: bytes =>
    let next := step pending byte
    next.1 ++ decodeFrom next.2 bytes

/-- Reads bytes as text. -/
def decode (bytes : List Nat) : List Char :=
  decodeFrom none bytes

end SchemaChange.Text.Utf8
