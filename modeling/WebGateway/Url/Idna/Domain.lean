import WebGateway.Url.Idna.Composition
import WebGateway.Url.Idna.Direction
import WebGateway.Url.Idna.FormRanges
import WebGateway.Url.Idna.IdeographRanges
import WebGateway.Url.Idna.LetterRanges
import WebGateway.Url.Idna.RareRanges
import WebGateway.Url.Idna.ScriptRanges
import WebGateway.Url.Idna.SymbolRanges
import WebGateway.Url.Punycode

/-!
# International domain names

A domain name is mapped character by character, composed, divided into labels at its dots, and each
label outside ASCII is written in Punycode behind `xn--`. A label that already has that form must
stand for a label that mapping and composing would leave as it is. The order in which the labels are
shown must be the order in which they are written.
-/

set_option autoImplicit false
set_option relaxedAutoImplicit false

namespace WebGateway.Url.Idna

/-- What a code point becomes; ASCII capitals become small letters. -/
def mapPoint? (point : Nat) : Option (List Nat) :=
  if point < 0x80 then
    some [if 'A'.toNat ≤ point ∧ point ≤ 'Z'.toNat then point + 32 else point]
  else
    [letterRanges, scriptRanges, symbolRanges, ideographRanges, formRanges, rareRanges].findSome?
      fun ranges ↦ mapIn? ranges point

/-- The code point stands for itself. -/
def isValidPoint (point : Nat) : Bool :=
  mapPoint? point == some [point]

def isMark (point : Nat) : Bool :=
  inRanges markRanges point

/-- Every joiner follows a sign that silences a vowel, or is one that keeps two letters apart which
would join; the characters before it are given in reverse. -/
def joinersAllowed : List Nat → List Nat → Bool
  | _, [] => true
  | before, point :: after =>
    (match point with
      | 0x200C => before.head?.any viramas.contains || separatesLetters before after
      | 0x200D => before.head?.any viramas.contains
      | _ => true) && joinersAllowed (point :: before) after

/-- A label outside ASCII that needs no mapping. -/
def isValidLabel (label : List Nat) : Bool :=
  label.all isValidPoint && normalize label == label && joinersAllowed [] label &&
    !(label.head?.any isMark)

def isAscii (label : List Nat) : Bool :=
  label.all (· < 0x80)

/-- The label that a mapped label stands for. -/
def meantLabel? (label : List Nat) : Option (List Nat) := do
  let text ← label.mapM Punycode.charOf?
  match text with
  | 'x' :: 'n' :: '-' :: '-' :: written =>
    let meant := (← Punycode.decode written).map Char.toNat
    if isAscii label && !isAscii meant && isValidLabel meant then return meant else none
  | _ => if isAscii label || isValidLabel label then return label else none

/-- The written form of a label. -/
def writtenLabel? (label : List Nat) : Option (List Char) := do
  let text ← label.mapM Punycode.charOf?
  return if isAscii label then text else ['x', 'n', '-', '-'] ++ Punycode.encode text

/-- The character may not stand in a host name. -/
def isForbidden (c : Char) : Bool :=
  c.toNat ≤ 0x20 || c.toNat == 0x7F || "#%/:<>?@[\\]^|".toList.contains c

/-- The ASCII form of a domain name. -/
def toAscii? (domain : List Char) : Option (List Char) := do
  let mapped ← domain.mapM fun c ↦ mapPoint? c.toNat
  let labels ← ((normalize mapped.flatten).splitOn '.'.toNat).mapM meantLabel?
  if directionsAllowed labels then
    let text := ['.'].intercalate (← labels.mapM writtenLabel?)
    if text.any isForbidden then none else some text
  else none

end WebGateway.Url.Idna
