/-
# SchemaChange.Uri.Address — network addresses written in brackets

The host of a URI may be an address in brackets: a version 6 address, with an
optional zone, or an address of a later version.  `checkBracketed` accepts these and
says what is wrong with anything else.
-/
import SchemaChange.Text.Search

set_option autoImplicit false

namespace SchemaChange.Uri

open SchemaChange.Text

/-- What is wrong with an address in brackets. -/
inductive AddressFault where
  | badFuture
  | versionFour
  | noAddress
  deriving DecidableEq, Repr

/-- Whether a character is an ASCII digit. -/
def isAsciiDigit (c : Char) : Bool :=
  '0' ≤ c && c ≤ '9'

/-- Whether a character is a hexadecimal digit. -/
def isHexDigit (c : Char) : Bool :=
  isAsciiDigit c || ('a' ≤ c && c ≤ 'f') || ('A' ≤ c && c ≤ 'F')

/-- The number that ASCII digits write. -/
def asciiNumber (digits : List Char) : Nat :=
  digits.foldl (fun n c => n * 10 + (c.toNat - 48)) 0

/-- Whether a text is a byte in decimal, without zeros before it. -/
def isOctet (text : List Char) : Bool :=
  !text.isEmpty && text.all isAsciiDigit && text.length ≤ 3
    && (text == ['0'] || text.head? != some '0') && asciiNumber text ≤ 255

/-- Whether a text is a version 4 address. -/
def isVersionFour (text : List Char) : Bool :=
  let octets := splitAll '.' text
  octets.length == 4 && octets.all isOctet

/-- Whether a text is a group of a version 6 address. -/
def isGroup (text : List Char) : Bool :=
  !text.isEmpty && text.all isHexDigit && text.length ≤ 4

/-- The groups of a version 6 address, where a version 4 address at the end counts as two. -/
def groups? (text : List Char) : Option (List (List Char)) :=
  let parts := splitAll ':' text
  if parts.length < 3 then none
  else
    let last := parts.getLast?.getD []
    if '.' ∈ last then
      if isVersionFour last then some (parts.dropLast ++ [['0'], ['0']]) else none
    else some parts

/-- Whether groups make a version 6 address: eight groups, or at most seven around one gap, which
may stand at an end only by itself. -/
def areVersionSix (groups : List (List Char)) : Bool :=
  let inner := groups.tail.dropLast
  let gaps := inner.countP List.isEmpty
  if gaps == 0 then groups.length == 8 && groups.all isGroup
  else
    let before := groups.tail.takeWhile (!·.isEmpty)
    let after := groups.dropLast.reverse.takeWhile (!·.isEmpty)
    let first := groups.head?.getD []
    let last := groups.getLast?.getD []
    gaps == 1
      && (!first.isEmpty || before.isEmpty)
      && (!last.isEmpty || after.isEmpty)
      && groups.countP (!·.isEmpty) ≤ 7
      && (groups.filter (!·.isEmpty)).all isGroup

/-- An address without its zone, unless the zone is malformed. -/
def withoutZone? (text : List Char) : Option (List Char) :=
  match cut? '%' text with
  | none => some text
  | some (address, zone) => if zone.isEmpty || '%' ∈ zone then none else some address

/-- Whether a text is a version 6 address. -/
def isVersionSix (text : List Char) : Bool :=
  match (withoutZone? text).bind groups? with
  | some groups => areVersionSix groups
  | none => false

/-- Whether a text is an address of a later version: a `v`, the version in hexadecimal, a point,
and at least one more character. -/
def isFuture (text : List Char) : Bool :=
  match text with
  | 'v' :: rest =>
    match rest.takeWhile isHexDigit, rest.dropWhile isHexDigit with
    | _ :: _, '.' :: _ :: _ => true
    | _, _ => false
  | _ => false

/-- Checks an address in brackets. -/
def checkBracketed (text : List Char) : Except AddressFault Unit :=
  if text.head? = some 'v' then
    if isFuture text then .ok () else .error .badFuture
  else if isVersionFour text then .error .versionFour
  else if isVersionSix text then .ok ()
  else .error .noAddress

end SchemaChange.Uri
