import WebGateway.Text.Percent

/-!
# Internet addresses

An IPv4 address is written as four decimal numbers without leading zeros. An IPv6 address is
written as groups of up to four hexadecimal digits, where `::` stands for one or more groups of
zeros and the last two groups may be written as an IPv4 address. It is printed with its first
longest run of two or more zero groups as `::`.
-/

set_option autoImplicit false
set_option relaxedAutoImplicit false

namespace WebGateway.Net

/-- The number that decimal digits write; nothing for an empty or other text. -/
def decimal? (digits : List Char) : Option Nat :=
  if digits ≠ [] ∧ digits.all Char.isDigit then
    some (digits.foldl (fun value digit ↦ 10 * value + (digit.toNat - '0'.toNat)) 0)
  else none

/-- The number that hexadecimal digits write. -/
def hexadecimal? (digits : List Char) : Option Nat :=
  if digits = [] then none
  else digits.foldlM (fun value digit ↦ (Text.Percent.hexValue? digit).map (16 * value + ·)) 0

structure IPv4 where
  octets : UInt8 × UInt8 × UInt8 × UInt8
deriving DecidableEq, Repr

namespace IPv4

/-- One of the four numbers: at most 255, without leading zeros. -/
def octet? (digits : List Char) : Option UInt8 := do
  let value ← decimal? digits
  if digits.length ≤ 3 ∧ value ≤ 255 ∧ (digits.head? ≠ some '0' ∨ digits.length = 1) then
    some (UInt8.ofNat value)
  else none

def parse? (text : List Char) : Option IPv4 :=
  match (text.splitOn '.').mapM octet? with
  | some [first, second, third, fourth] => some ⟨first, second, third, fourth⟩
  | _ => none

def toText (address : IPv4) : String :=
  let (first, second, third, fourth) := address.octets
  String.intercalate "." ([first, second, third, fourth].map fun octet ↦ toString octet.toNat)

/-- The address of a 32-bit number. -/
def ofNat (number : Nat) : IPv4 :=
  ⟨UInt8.ofNat (number / 0x1000000), UInt8.ofNat (number / 0x10000), UInt8.ofNat (number / 0x100),
    UInt8.ofNat number⟩

end IPv4

/-- An IPv6 address: eight groups of sixteen bits. -/
structure IPv6 where
  groups : List UInt16
  length_eq : groups.length = 8
deriving DecidableEq, Repr

namespace IPv6

/-- One group of hexadecimal digits. -/
def group? (digits : List Char) : Option UInt16 := do
  let value ← hexadecimal? digits
  if digits.length ≤ 4 then some (UInt16.ofNat value) else none

/-- Groups separated by colons, where the last two may be written as an IPv4 address. -/
def groupsOf? : List (List Char) → Option (List UInt16)
  | [] => some []
  | [last] =>
    match IPv4.parse? last with
    | some ⟨first, second, third, fourth⟩ =>
      some [first.toUInt16 * 256 + second.toUInt16, third.toUInt16 * 256 + fourth.toUInt16]
    | none => (group? last).map ([·])
  | word :: rest => do
    let group ← group? word
    let groups ← groupsOf? rest
    return group :: groups

/-- The groups of a text that may be empty. -/
def optionalGroups? (text : List Char) : Option (List UInt16) :=
  if text = [] then some [] else groupsOf? (text.splitOn ':')

/-- The text before the first `::` and the text after it. -/
def splitGap : List Char → Option (List Char × List Char)
  | ':' :: ':' :: rest => some ([], rest)
  | c :: rest => (splitGap rest).map fun (before, after) ↦ (c :: before, after)
  | [] => none

def ofGroups? (groups : List UInt16) : Option IPv6 :=
  if h : groups.length = 8 then some ⟨groups, h⟩ else none

/-- The text is written with an IPv4 address at its end. -/
def endsInIPv4 (text : List Char) : Bool :=
  text.contains '.'

def parse? (text : List Char) : Option IPv6 :=
  match splitGap text with
  | none => (groupsOf? (text.splitOn ':')).bind ofGroups?
  | some (before, after) => do
    if endsInIPv4 before then none
    else
      let front ← optionalGroups? before
      let back ← optionalGroups? after
      if front.length + back.length ≤ 7 then
        ofGroups? (front ++ List.replicate (8 - (front.length + back.length)) 0 ++ back)
      else none

/-- The start and the length of the first longest run of zero groups. -/
def longestGap (groups : List UInt16) : Nat × Nat :=
  let runs := (List.range groups.length).map fun start ↦
    (start, ((groups.drop start).takeWhile (· == 0)).length)
  runs.foldl (fun best run ↦ if best.2 < run.2 then run else best) (0, 0)

/-- The hexadecimal digits of a group, in lower case and without leading zeros. -/
def groupText (group : UInt16) : String :=
  String.ofList (Nat.toDigits 16 group.toNat)

def groupsText (groups : List UInt16) : String :=
  String.intercalate ":" (groups.map groupText)

/-- The address in groups, the first longest run of at least two zero groups as `::`. -/
def toText (address : IPv6) : String :=
  let (start, length) := longestGap address.groups
  if length < 2 then groupsText address.groups
  else
    groupsText (address.groups.take start) ++ "::" ++
      groupsText (address.groups.drop (start + length))

/-- The IPv4 address that an IPv6 address stands for, if it stands for one. -/
def mapped? (address : IPv6) : Option IPv4 :=
  match address.groups with
  | [0, 0, 0, 0, 0, 0xffff, high, low] => some (.ofNat (high.toNat * 0x10000 + low.toNat))
  | _ => none

end IPv6

inductive IpAddress where
  | v4 (address : IPv4)
  | v6 (address : IPv6)
deriving DecidableEq, Repr

namespace IpAddress

def parse? (text : String) : Option IpAddress :=
  ((IPv4.parse? text.toList).map v4).or ((IPv6.parse? text.toList).map v6)

/-- The address as a machine takes it: one that stands for an IPv4 address is that address. -/
def unmapped : IpAddress → IpAddress
  | v4 address => v4 address
  | v6 address => (address.mapped?.map v4).getD (v6 address)

/-- The addresses of a machine that an address stands for include another one. On the IPv6 address
that stands for all addresses, IPv4 connections are taken as well. -/
def covers : IpAddress → IpAddress → Bool
  | v4 address, v4 other => address = other || address.octets = (0, 0, 0, 0)
  | v4 _, v6 _ => false
  | v6 address, other => v6 address = other || address.groups.all (· == 0)

/-- The address as it is shown; an IPv6 address that stands for an IPv4 one shows it. -/
def toText : IpAddress → String
  | v4 address => address.toText
  | v6 address =>
    match address.mapped? with
    | some inner => "::ffff:" ++ inner.toText
    | none => address.toText

end IpAddress

/-- The address of one end of a connection. -/
structure SocketAddress where
  ip : IpAddress
  port : UInt16
deriving DecidableEq, Repr

namespace SocketAddress

/-- The address as it is shown, with an IPv6 address in brackets. -/
def toText (address : SocketAddress) : String :=
  match address.ip with
  | .v4 ip => ip.toText ++ ":" ++ toString address.port.toNat
  | .v6 _ => "[" ++ address.ip.toText ++ "]:" ++ toString address.port.toNat

/-- A port number in decimal, leading zeros allowed. -/
def port? (digits : List Char) : Option UInt16 := do
  let value ← decimal? digits
  if value ≤ 65535 then some (UInt16.ofNat value) else none

/-- The scope that may follow an IPv6 address is a decimal number of 32 bits. -/
def isScope (digits : List Char) : Bool :=
  match decimal? digits with
  | some value => value < 0x100000000
  | none => false

/-- The IPv6 address of a text that may end in `%` and a scope, which is dropped. -/
def scopedIPv6? (text : List Char) : Option IPv6 :=
  match text.span (· ≠ '%') with
  | (address, []) => IPv6.parse? address
  | (address, _ :: scope) => if isScope scope then IPv6.parse? address else none

/-- Reads `address:port`, with an IPv6 address in brackets. -/
def parse? (text : String) : Option SocketAddress :=
  match text.toList with
  | '[' :: rest =>
    match rest.span (· ≠ ']') with
    | (inner, ']' :: ':' :: digits) => do
      let address ← scopedIPv6? inner
      let port ← port? digits
      return ⟨.v6 address, port⟩
    | _ => none
  | word =>
    match word.span (· ≠ ':') with
    | (address, ':' :: digits) => do
      let address ← IPv4.parse? address
      let port ← port? digits
      return ⟨.v4 address, port⟩
    | _ => none

end SocketAddress

end WebGateway.Net
