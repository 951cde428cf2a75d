import WebGateway.Net.Address
import WebGateway.Url.Idna.Domain

/-!
# Hosts of URLs

A host is an IPv6 address in brackets, an IPv4 address, or a domain name. A domain name is decoded
and put into its ASCII form first; when its last label is a number, the whole has to be an IPv4
address, whose numbers may be decimal, octal or hexadecimal, and whose last number fills the octets
that the others leave.
-/

set_option autoImplicit false
set_option relaxedAutoImplicit false

namespace WebGateway.Url

/-- Why a text is no URL. -/
inductive UrlError where
  | noBase
  | emptyHost
  | badDomain
  | badDomainCharacter
  | badIPv4
  | badIPv6
  | badPort
deriving DecidableEq, Repr

def UrlError.message : UrlError → String
  | noBase => "relative URL without a base"
  | emptyHost => "empty host"
  | badDomain => "invalid international domain name"
  | badDomainCharacter => "invalid domain character"
  | badIPv4 => "invalid IPv4 address"
  | badIPv6 => "invalid IPv6 address"
  | badPort => "invalid port number"

inductive Host where
  | domain (text : List Char)
  | ipv4 (address : Net.IPv4)
  | ipv6 (address : Net.IPv6)
deriving DecidableEq, Repr

namespace Host

def toText : Host → String
  | domain text => String.ofList text
  | ipv4 address => address.toText
  | ipv6 address => "[" ++ address.toText ++ "]"

/-- The number that a part of an IPv4 address writes: hexadecimal behind `0x`, octal behind another
zero, and decimal otherwise. -/
def numberOf? (part : List Char) : Option Nat :=
  match part with
  | [] => none
  | '0' :: 'x' :: digits => hexOrZero digits
  | '0' :: 'X' :: digits => hexOrZero digits
  | '0' :: c :: digits =>
    if (c :: digits).all fun d ↦ '0' ≤ d && d ≤ '7' then
      some ((c :: digits).foldl (fun value d ↦ 8 * value + (d.toNat - '0'.toNat)) 0)
    else none
  | digits => Net.decimal? digits
where
  /-- Hexadecimal digits; none at all write zero. -/
  hexOrZero (digits : List Char) : Option Nat :=
    if digits = [] then some 0 else Net.hexadecimal? digits

/-- The last label of a domain name, where an empty one at the end does not count. -/
def lastLabel? (domain : List Char) : Option (List Char) :=
  match (domain.splitOn '.').reverse with
  | [] :: label :: _ => some label
  | [[]] => none
  | label :: _ => some label
  | [] => none

/-- The last label is a number. -/
def endsInNumber (domain : List Char) : Bool :=
  match lastLabel? domain with
  | some label => (label ≠ [] && label.all Char.isDigit) || (numberOf? label).isSome
  | none => false

/-- The address of the numbers of its parts. -/
def ofNumbers? (numbers : List Nat) : Option Net.IPv4 :=
  match numbers.reverse with
  | [] => none
  | last :: others =>
    let octets := others.reverse
    if numbers.length ≤ 4 ∧ octets.all (· ≤ 255) ∧ last < Nat.pow 256 (4 - octets.length) then
      some (.ofNat (octets.foldl (fun value octet ↦ 256 * value + octet) 0 *
        Nat.pow 256 (4 - octets.length) + last))
    else none

def parseIPv4? (domain : List Char) : Option Net.IPv4 :=
  let parts := domain.splitOn '.'
  let parts := if parts.getLast? = some [] then parts.dropLast else parts
  (parts.mapM numberOf?).bind ofNumbers?

def parseIPv6 (inner : List Char) : Except UrlError Host :=
  match Net.IPv6.parse? inner with
  | some address => .ok (ipv6 address)
  | none => .error .badIPv6

/-- An IPv6 address in brackets. -/
def parseBracketed (rest : List Char) : Except UrlError Host :=
  if rest.getLast? = some ']' then parseIPv6 rest.dropLast else .error .badIPv6

/-- The host of a URL whose scheme has domain names for hosts. -/
def parse (text : List Char) : Except UrlError Host :=
  match text with
  | '[' :: rest => parseBracketed rest
  | _ =>
    match (Text.ofUtf8? (Text.Percent.decode text)).bind Idna.toAscii? with
    | none => .error .badDomain
    | some [] => .error .emptyHost
    | some name =>
      if endsInNumber name then
        match parseIPv4? name with
        | some address => .ok (ipv4 address)
        | none => .error .badIPv4
      else .ok (domain name)

/-- The character may not stand in the host of other schemes. -/
def isForbiddenElsewhere (c : Char) : Bool :=
  c == '\x00' || "\t\n\r #/:<>?@[\\]^|".toList.contains c

/-- Checks the host of a URL of another scheme. -/
def checkOpaque (text : List Char) : Except UrlError Unit :=
  match text with
  | '[' :: rest => (parseBracketed rest).map fun _ ↦ ()
  | _ => if text.any isForbiddenElsewhere then .error .badDomainCharacter else .ok ()

end Host

end WebGateway.Url
