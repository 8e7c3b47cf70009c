import RowLoader.Domain.Name

/-!
# Hosts

Which texts name a host in a URL: an address of version 6 in brackets, and otherwise a name. On the web a name is a domain,
whose last label decides whether it has to be an address of version 4.
-/

namespace RowLoader.Connection

inductive HostFault where
  | empty
  | address4
  | address6
  | character
  | domain
  deriving DecidableEq

def HostFault.message : HostFault → String
  | empty => "empty host"
  | address4 => "invalid IPv4 address"
  | address6 => "invalid IPv6 address"
  | character => "invalid domain character"
  | domain => "invalid international domain name"

/-! ### addresses of version 6 -/

/-- One to four hexadecimal digits. -/
def isHexGroup (s : List Char) : Bool := !s.isEmpty && s.length ≤ 4 && s.all Text.isHexDigit

/-- A decimal number up to 255, without zeros in front. -/
def isOctet (s : List Char) : Bool :=
  !s.isEmpty && s.length ≤ 3 && s.all Char.isDigit && (s.length = 1 || s.head? != some '0') && Nat.ofDigitChars 10 s 0 ≤ 255

def isDottedQuad (s : List Char) : Bool :=
  let octets := Text.pieces '.' s
  octets.length = 4 && octets.all isOctet

/-- How many groups of 16 bits the text between colons stands for; only the last may be a dotted quad, which stands for two. -/
def groupCount? : List (List Char) → Option Nat
  | [] => some 0
  | [last] => if isHexGroup last then some 1 else if isDottedQuad last then some 2 else none
  | group :: rest => if isHexGroup group then (groupCount? rest).map (· + 1) else none

/-- The texts before and behind the first double colon. -/
def cutDoubleColon : List Char → Option (List Char × List Char)
  | ':' :: ':' :: r => some ([], r)
  | c :: r => (cutDoubleColon r).map fun cut => (c :: cut.1, cut.2)
  | [] => none

def groupsOf (s : List Char) : List (List Char) := if s.isEmpty then [] else Text.pieces ':' s

/-- Eight groups, of which a double colon leaves out one or more. -/
def isAddress6 (s : List Char) : Bool :=
  match cutDoubleColon s with
  | none => groupCount? (groupsOf s) = some 8
  | some (before, behind) =>
    match groupCount? (groupsOf behind) with
    | none => false
    | some n => (groupsOf before).all isHexGroup && (groupsOf before).length + n ≤ 7

/-! ### addresses of version 4 -/

/-- A digit of a higher base makes no number; a number that is too large stays at `2 ^ 32`. -/
def cappedNumber? (base : Nat) : (acc : Nat) → List Char → Option Nat
  | acc, [] => some acc
  | acc, c :: r =>
    match Text.hexDigitValue? c with
    | some d => if d.toNat < base then cappedNumber? base (min (acc * base + d.toNat) 0x100000000) r else none
    | none => none

/-- Hexadecimal behind `0x`, octal behind another zero. -/
def addressPart? : List Char → Option Nat
  | [] => none
  | '0' :: 'x' :: r | '0' :: 'X' :: r => cappedNumber? 16 0 r
  | '0' :: c :: r => cappedNumber? 8 0 (c :: r)
  | s => cappedNumber? 10 0 s

/-- The labels of a domain, without the empty one behind a dot at the end. -/
def labels (domain : List Char) : List (List Char) :=
  let all := Text.pieces '.' domain
  if all.getLast? = some [] then all.dropLast else all

/-- Whether a domain has to be an address. -/
def endsInNumber (domain : List Char) : Bool :=
  match (labels domain).getLast? with
  | none => false
  | some last => (!last.isEmpty && last.all Char.isDigit) || (addressPart? last).isSome

/-- At most four numbers; the last one fills the bytes that the others leave. -/
def isAddress4 (domain : List Char) : Bool :=
  let parts := labels domain
  match parts.mapM addressPart? with
  | none => false
  | some numbers =>
    parts.length ≤ 4 && numbers.dropLast.all (· ≤ 255) && numbers.getLast?.any (· < Nat.pow 256 (5 - parts.length))

/-! ### hosts -/

/-- What stands in brackets is an address. -/
def checkBracketed (s : List Char) : Except HostFault Unit :=
  if s.getLast? = some ']' ∧ isAddress6 s.dropLast then .ok () else .error .address6

def isForbiddenInName (c : Char) : Bool :=
  c == '\x00' || c == '\t' || c == '\n' || c == '\r' || c == ' ' || c == '#' || c == '/' || c == ':' || c == '<' ||
    c == '>' || c == '?' || c == '@' || c == '[' || c == '\\' || c == ']' || c == '^' || c == '|'

/-- A name in general; it may be empty. -/
def checkName : List Char → Except HostFault Unit
  | '[' :: r => checkBracketed r
  | s => if s.any isForbiddenInName then .error .character else .ok ()

def isForbiddenInDomain (c : Char) : Bool := isForbiddenInName c || c.toNat < 32 || c == '%' || c == '\x7f'

/-- A domain may be percent-encoded, and its dots and digits may be those of other scripts. -/
def checkDomain : List Char → Except HostFault Unit
  | [] => .error .empty
  | '[' :: r => checkBracketed r
  | s =>
    match Domain.read? (Text.percentDecode s) with
    | none => .error .domain
    | some domain =>
      if domain.any isForbiddenInDomain then .error .domain
      else if domain.isEmpty then .error .empty
      else if endsInNumber domain && !isAddress4 domain then .error .address4
      else .ok ()

end RowLoader.Connection
