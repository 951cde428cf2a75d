/-!
# Base 64

Four characters write three octets. Blanks do not count. The last characters may be padded to four,
but need not be; a single character is left over from nothing.
-/

set_option autoImplicit false
set_option relaxedAutoImplicit false

namespace WebGateway.Tls.Base64

inductive Base64Error where
  | badCharacter (octet : UInt8)
  | paddingInside
  | badEnd
deriving DecidableEq, Repr

def Base64Error.message : Base64Error → String
  | badCharacter octet => "InvalidCharacter(" ++ toString octet.toNat ++ ")"
  | paddingInside => "PrematurePadding"
  | badEnd => "InvalidTrailingPadding"

/-- The six bits that a character writes. -/
def sextet? (octet : UInt8) : Option Nat :=
  let n := octet.toNat
  if 0x41 ≤ n ∧ n ≤ 0x5A then some (n - 0x41)
  else if 0x61 ≤ n ∧ n ≤ 0x7A then some (n - 0x61 + 26)
  else if 0x30 ≤ n ∧ n ≤ 0x39 then some (n - 0x30 + 52)
  else if n = 0x2B then some 62
  else if n = 0x2F then some 63
  else none

def isBlankOctet (octet : UInt8) : Bool :=
  octet == 32 || (9 ≤ octet && octet ≤ 13)

def isPadding (octet : UInt8) : Bool :=
  octet == 0x3D

/-- The sextets of a text and the number of padding characters behind them; the sextets read so far
are given in reverse. -/
def scan (sextets : List Nat) (padding : Nat) :
    List UInt8 → Except Base64Error (List Nat × Nat)
  | [] => .ok (sextets.reverse, padding)
  | octet :: rest =>
    if isBlankOctet octet then scan sextets padding rest
    else if isPadding octet then scan sextets (padding + 1) rest
    else
      match sextet? octet with
      | none => .error (.badCharacter octet)
      | some value =>
        if padding = 0 then scan (value :: sextets) padding rest else .error .paddingInside

/-- The octets that sextets write; bits that fill no octet are dropped. -/
def octetsOf : List Nat → List UInt8
  | first :: second :: third :: fourth :: rest =>
    UInt8.ofNat (first * 4 + second / 16) :: UInt8.ofNat (second * 16 + third / 4) ::
      UInt8.ofNat (third * 64 + fourth) :: octetsOf rest
  | [first, second, third] =>
    [UInt8.ofNat (first * 4 + second / 16), UInt8.ofNat (second * 16 + third / 4)]
  | [first, second] => [UInt8.ofNat (first * 4 + second / 16)]
  | _ => []

/-- The text ends where a group of four does, or is not padded and leaves no single character. -/
def endsWell (count padding : Nat) : Bool :=
  if padding = 0 then count % 4 != 1 else padding ≤ 2 && (count + padding) % 4 == 0

/-- The octets that a text writes. -/
def decode (text : List UInt8) : Except Base64Error (List UInt8) := do
  let (sextets, padding) ← scan [] 0 text
  if endsWell sextets.length padding then return octetsOf sextets else .error .badEnd

end WebGateway.Tls.Base64
