/-
# SchemaChange.Uri.Basic — the parts of a URI

`Uri.split` takes a URI apart into its scheme, its authority, its path and its
query; the authority holds a user with a password, a host and a port.  Blanks and
control characters before a URI, and tabs and line ends anywhere in it, do not
count.  What is after a number sign is dropped.

`checkBrackets_of_not_mem` says that an authority without brackets is not checked for
an address, and `port_le` that a port is at most 65535.
-/
import SchemaChange.Numeric.Numeral
import SchemaChange.Text.Case
import SchemaChange.Uri.Address
import SchemaChange.Value.Display

set_option autoImplicit false

namespace SchemaChange

open SchemaChange.Text

/-- The parts of a URI. -/
structure Uri where
  scheme : List Char
  authority : List Char
  path : List Char
  query : List Char
  deriving DecidableEq, Repr

namespace Uri

/-- What is wrong with a URI. -/
inductive Fault where
  | misplacedBracket
  | address (host : List Char) (fault : AddressFault)
  | hiddenDelimiter (authority : List Char)
  | badPort (port : List Char)
  | portOutOfRange
  | longPort (digits : Nat)
  deriving DecidableEq, Repr

/-- The wording of what is wrong with a URI. -/
def Fault.message : Fault → String
  | .misplacedBracket => "Invalid IPv6 URL"
  | .address _ .badFuture => "IPvFuture address is invalid"
  | .address _ .versionFour => "An IPv4 address cannot be in brackets"
  | .address host .noAddress =>
    String.ofList (quoted host) ++ " does not appear to be an IPv4 or IPv6 address"
  | .hiddenDelimiter authority =>
    "netloc '" ++ String.ofList authority
      ++ "' contains invalid characters under NFKC normalization"
  | .badPort port => "Port could not be cast to integer value as " ++ String.ofList (quoted port)
  | .portOutOfRange => "Port out of range 0-65535"
  | .longPort digits =>
    "Exceeds the limit (4300 digits) for integer string conversion: value has "
      ++ toString digits ++ " digits; use sys.set_int_max_str_digits() to increase the limit"

/-- Whether a character before a URI does not count. -/
def isLeadingIgnored (c : Char) : Bool :=
  c.toNat ≤ 0x20

/-- Whether a character does not count anywhere in a URI. -/
def isIgnored (c : Char) : Bool :=
  c == '\t' || c == '\r' || c == '\n'

/-- Whether a character may stand in a scheme. -/
def isSchemeChar (c : Char) : Bool :=
  c.isAlphanum || c == '+' || c == '-' || c == '.'

/-- Whether a text is a scheme: a letter, and then letters, digits and `+ - .`. -/
def isScheme (text : List Char) : Bool :=
  match text with
  | [] => false
  | c :: _ => c.isAlpha && text.all isSchemeChar

/-- The scheme, in lower case, and what follows its colon; without a scheme the whole text. -/
def splitScheme (text : List Char) : List Char × List Char :=
  match cut? ':' text with
  | some (scheme, rest) => if isScheme scheme then (lower scheme, rest) else ([], text)
  | none => ([], text)

/-- Whether a character ends an authority. -/
def endsAuthority (c : Char) : Bool :=
  c == '/' || c == '?' || c == '#'

/-- The authority behind two slashes, and the rest. -/
def splitAuthority (text : List Char) : List Char × List Char :=
  match text with
  | '/' :: '/' :: rest =>
    (rest.takeWhile (!endsAuthority ·), rest.dropWhile (!endsAuthority ·))
  | _ => ([], text)

/-- What stands before a delimiter, or the whole text, and what stands after it. -/
def splitAt (delimiter : Char) (text : List Char) : List Char × List Char :=
  (cut? delimiter text).getD (text, [])

/-- What stands behind the user of an authority: the host and the port. -/
def hostPart (authority : List Char) : List Char :=
  match cutLast? '@' authority with
  | some (_, part) => part
  | none => authority

/-- The host that has to be an address when an authority has brackets: what they hold, with
nothing before them and at most a port behind them.  Where only the user has brackets, it is what
stands before the port. -/
def bracketedHost (part : List Char) : Except Fault (List Char) :=
  match cut? '[' part with
  | none => .ok (splitAt ':' part).1
  | some (_ :: _, _) => .error .misplacedBracket
  | some ([], inside) =>
    match splitAt ']' inside with
    | (host, []) | (host, ':' :: _) => .ok host
    | _ => .error .misplacedBracket

/-- Checks that brackets in an authority come in both kinds, and that the host is then an address
with nothing but brackets around it. -/
def checkBrackets (authority : List Char) : Except Fault Unit :=
  if '[' ∈ authority ∧ ']' ∈ authority then do
    let host ← bracketedHost (hostPart authority)
    (checkBracketed host).mapError (.address host)
  else if '[' ∈ authority ∨ ']' ∈ authority then .error .misplacedBracket
  else .ok ()

/-- The characters whose compatibility form has a delimiter of URIs in it. -/
def delimiterLookalikes : List Nat :=
  [0x2047, 0x2048, 0x2049, 0x2100, 0x2101, 0x2105, 0x2106, 0x2A74, 0xFE13, 0xFE16, 0xFE55, 0xFE56,
   0xFE5F, 0xFE6B, 0xFF03, 0xFF0F, 0xFF1A, 0xFF1F, 0xFF20]

/-- Checks that no character of an authority would turn into a delimiter. -/
def checkLookalikes (authority : List Char) : Except Fault Unit :=
  if authority.any fun c => delimiterLookalikes.contains c.toNat then
    .error (.hiddenDelimiter authority)
  else .ok ()

/-- Takes a URI apart. -/
def split (text : List Char) : Except Fault Uri := do
  let text := (text.dropWhile isLeadingIgnored).filter (!isIgnored ·)
  let (scheme, rest) := splitScheme text
  let (authority, rest) := splitAuthority rest
  checkBrackets authority
  let (rest, _) := splitAt '#' rest
  let (path, query) := splitAt '?' rest
  checkLookalikes authority
  .ok ⟨scheme, authority, path, query⟩

/-- The user and the password, if the authority has them. -/
def userInfo (uri : Uri) : Option (List Char) × Option (List Char) :=
  match cutLast? '@' uri.authority with
  | none => (none, none)
  | some (info, _) =>
    match cut? ':' info with
    | some (user, password) => (some user, some password)
    | none => (some info, none)

/-- The host and the port as they are written. -/
def hostInfo (uri : Uri) : List Char × List Char :=
  let part := hostPart uri.authority
  match cut? '[' part with
  | some (_, bracketed) =>
    let (host, rest) := splitAt ']' bracketed
    (host, (splitAt ':' rest).2)
  | none => splitAt ':' part

/-- The host in lower case, except for the zone of an address. -/
def host (uri : Uri) : List Char :=
  match cut? '%' uri.hostInfo.1 with
  | some (address, zone) => lower address ++ '%' :: zone
  | none => lower uri.hostInfo.1

/-- The port. -/
def port (uri : Uri) : Except Fault (Option Nat) :=
  match uri.hostInfo.2 with
  | [] => .ok none
  | digits =>
    if !digits.all isAsciiDigit then .error (.badPort digits)
    else if Numeral.maxDigits < digits.length then .error (.longPort digits.length)
    else if asciiNumber digits ≤ 65535 then .ok (some (asciiNumber digits))
    else .error .portOutOfRange

theorem checkBrackets_of_not_mem {authority : List Char} (h : '[' ∉ authority)
    (h' : ']' ∉ authority) : checkBrackets authority = .ok () := by
  simp [checkBrackets, h, h']

theorem port_le {uri : Uri} {n : Nat} (h : uri.port = .ok (some n)) : n ≤ 65535 := by
  simp only [port] at h
  split at h
  · cases h
  · split at h
    · cases h
    · split at h
      · cases h
      · split at h
        · cases h
          assumption
        · cases h

end Uri

end SchemaChange
