import MailMerge.Decimal.Numeral
import MailMerge.Text.Split
import MailMerge.Url.Domain.Ascii
import MailMerge.Url.Percent

/-!
# Hosts

The host of a URL is a domain or an address. Domains are written in small ASCII letters, a
domain whose last label is a number is an address in four parts, and a host in brackets is
an address in eight groups.

## Main definitions

* `UrlError`: why a text is not a URL.
* `parseIpv4`, `parseIpv6`: addresses.
* `Host.parse`, `Host.parseOpaque`: hosts of special and of other URLs.
-/

namespace MailMerge

/-- Why a text is not a URL. -/
inductive UrlError where
  | emptyHost
  | invalidDomain
  | invalidSocket
  | invalidIpv4
  | invalidIpv6
  | invalidHostCharacter
  | noScheme
deriving DecidableEq, Repr

/-- The wording of an error. -/
def UrlError.message : UrlError → String
  | .emptyHost => "empty host"
  | .invalidDomain => "invalid international domain name"
  | .invalidSocket => "invalid port number"
  | .invalidIpv4 => "invalid IPv4 address"
  | .invalidIpv6 => "invalid IPv6 address"
  | .invalidHostCharacter => "invalid domain character"
  | .noScheme => "relative URL without a base"

namespace Url

open Decimal (natChars isDigit)
open Text (splitAt)

/-! ### Addresses in four parts -/

/-- The value of a digit in any of the notations of a number. -/
def digitIn? (base : Nat) (c : Char) : Option Nat :=
  match hexValue? (byte c) with
  | some n => if c.toNat < 128 ∧ n < base then some n else none
  | none => none

/-- The number written with digits of a base. -/
def numberIn? (base : Nat) (cs : List Char) : Option Nat :=
  cs.foldlM (fun n c => (digitIn? base c).map (base * n + ·)) 0

/-- A part of an address: decimal, octal behind a zero, hexadecimal behind `0x`. -/
def ipv4Part? : List Char → Option Nat
  | [] => none
  | '0' :: 'x' :: cs => numberIn? 16 cs
  | '0' :: 'X' :: cs => numberIn? 16 cs
  | '0' :: c :: cs => numberIn? 8 (c :: cs)
  | cs => numberIn? 10 cs

/-- The parts of a domain without an empty one at the end. -/
def labels (domain : List Char) : List (List Char) :=
  match (splitAt '.' domain).reverse with
  | [] :: l :: ls => (l :: ls).reverse
  | ls => ls.reverse

/-- True for a domain whose last label is a number. -/
def endsInNumber (domain : List Char) : Bool :=
  match (labels domain).getLast? with
  | none => false
  | some [] => false
  | some last => last.all isDigit || (last.take 2 != last && (ipv4Part? last).isSome)
      || last == ['0', 'x'] || last == ['0', 'X']

/-- The number of an address in at most four parts, the last of which covers the rest. -/
def parseIpv4 (domain : List Char) : Except UrlError Nat :=
  let parts := labels domain
  match parts.mapM ipv4Part? with
  | none => .error .invalidIpv4
  | some numbers =>
    let front := numbers.dropLast
    let last := numbers.getLastD 0
    if 4 < numbers.length || front.any (255 < ·) || Nat.pow 256 (5 - numbers.length) ≤ last then
      .error .invalidIpv4
    else .ok (front.zipIdx.foldl (fun n p => n + p.1 * Nat.pow 256 (3 - p.2)) last)

/-- An address in four parts. -/
def ipv4Chars (n : Nat) : List Char :=
  natChars (n / Nat.pow 256 3) ++ '.' :: natChars (n / Nat.pow 256 2 % 256) ++
    '.' :: natChars (n / 256 % 256) ++ '.' :: natChars (n % 256)

/-! ### Addresses in eight groups -/

/-- One to four hexadecimal digits. -/
def ipv6Group? (cs : List Char) : Option Nat :=
  if cs.isEmpty || 4 < cs.length then none else numberIn? 16 cs

/-- A decimal number below 256 without zeros in front. -/
def plainByte? (cs : List Char) : Option Nat :=
  match cs with
  | '0' :: _ :: _ => none
  | [] => none
  | cs => (numberIn? 10 cs).bind fun n => if n < 256 then some n else none

/-- Groups separated by colons, the last of which may be an address in four parts. -/
def ipv6Groups? : List (List Char) → Option (List Nat)
  | [] => some []
  | [last] =>
    if last.contains '.' then
      match (splitAt '.' last).mapM plainByte? with
      | some [a, b, c, d] => some [256 * a + b, 256 * c + d]
      | _ => none
    else (ipv6Group? last).map ([·])
  | group :: groups => do return (← ipv6Group? group) :: (← ipv6Groups? groups)

/-- The groups of a part of an address next to the gap, which may be empty. -/
def ipv6Side? (cs : List Char) : Option (List Nat) :=
  if cs.isEmpty then some [] else ipv6Groups? (splitAt ':' cs)

/-- The text before and behind the first double colon. -/
def splitGap : List Char → Option (List Char × List Char)
  | ':' :: ':' :: rest => some ([], rest)
  | c :: rest => (splitGap rest).map fun p => (c :: p.1, p.2)
  | [] => none

/-- The eight groups of an address; a double colon stands for one or more zeros. -/
def parseIpv6 (cs : List Char) : Except UrlError (List Nat) :=
  let groups := match splitGap cs with
    | some (front, back) => do
      if front.contains '.' then none
      else
        let front ← ipv6Side? front
        let back ← ipv6Side? back
        if front.length + back.length < 8 then
          some (front ++ List.replicate (8 - front.length - back.length) 0 ++ back)
        else none
    | none => ipv6Side? cs
  match groups with
  | some groups => if groups.length = 8 then .ok groups else .error .invalidIpv6
  | none => .error .invalidIpv6

/-- The length of the run of zeros at the front. -/
def zeroRun (groups : List Nat) : Nat := (groups.takeWhile (· = 0)).length

/-- Where the longest run of two or more zeros starts, and its length. -/
def longestZeros (groups : List Nat) : Nat × Nat :=
  (List.range 8).foldl
    (fun best i =>
      let run := zeroRun (groups.drop i)
      if 1 < run ∧ best.2 < run then (i, run) else best) (0, 0)

/-- A number in hexadecimal with small letters. -/
def hexGroup (n : Nat) : List Char := Nat.toDigits 16 n

/-- Groups with colons between them. -/
def groupsChars (groups : List Nat) : List Char :=
  (groups.map hexGroup).intersperse [':'] |>.flatten

/-- An address in eight groups, the longest run of zeros being left out. -/
def ipv6Chars (groups : List Nat) : List Char :=
  match longestZeros groups with
  | (_, 0) => groupsChars groups
  | (start, count) =>
    groupsChars (groups.take start) ++ ':' :: ':' :: groupsChars (groups.drop (start + count))

/-! ### Hosts -/

/-- Characters that must not be in a host that is not a domain. -/
def forbiddenInHost (c : Char) : Bool :=
  ['\x00', '\t', '\n', '\r', ' ', '#', '/', ':', '<', '>', '?', '@', '[', '\\', ']', '^',
    '|'].contains c

/-- The text of a host in brackets. -/
def parseBracketed (cs : List Char) : Except UrlError (List Char) :=
  if cs.getLast? = some ']' then
    (parseIpv6 cs.dropLast).map fun groups => '[' :: (ipv6Chars groups ++ [']'])
  else .error .invalidIpv6

/-- The host of a URL with a special scheme, as it is written. -/
def parseHost (cs : List Char) : Except UrlError (List Char) :=
  match cs with
  | [] => .error .emptyHost
  | '[' :: cs => parseBracketed cs
  | cs =>
    match String.fromUTF8? (ByteArray.mk (percentDecode (utf8 cs)).toArray) with
    | none => .error .invalidDomain
    | some decoded =>
      match Domain.toAscii? decoded.toList with
      | none => .error .invalidDomain
      | some domain =>
        if domain.isEmpty then .error .emptyHost
        else if endsInNumber domain then (parseIpv4 domain).map ipv4Chars
        else .ok domain

/-- The host of any other URL, as it is written. -/
def parseOpaqueHost (cs : List Char) : Except UrlError (List Char) :=
  match cs with
  | '[' :: cs => parseBracketed cs
  | cs =>
    if cs.any forbiddenInHost then .error .invalidHostCharacter
    else .ok (percentEncode isControl cs)

end Url

end MailMerge
