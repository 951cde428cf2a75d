/-!
# DER

Certificates and keys are nested elements, each with a tag, a length and a content. Lengths are
written in the shortest form only, and tags take one octet. `write` writes an element, and
`read?` gives back what was written together with what follows it.
-/

set_option autoImplicit false
set_option relaxedAutoImplicit false

namespace WebGateway.Tls.Der

abbrev Octets :=
  List UInt8

def integerTag : UInt8 := 0x02

def bitStringTag : UInt8 := 0x03

def octetStringTag : UInt8 := 0x04

def nullTag : UInt8 := 0x05

def objectTag : UInt8 := 0x06

def booleanTag : UInt8 := 0x01

def sequenceTag : UInt8 := 0x30

/-- The tag of the field with a number of its own. -/
def fieldTag (number : Nat) : UInt8 :=
  UInt8.ofNat (0xA0 + number)

/-- The number that octets write, the weightiest first. -/
def number (octets : Octets) : Nat :=
  octets.foldl (fun value octet ↦ 256 * value + octet.toNat) 0

/-- The octets of a number, the weightiest first, without leading zeros. -/
def digits (value : Nat) : Octets :=
  if value = 0 then [] else digits (value / 256) ++ [UInt8.ofNat value]
termination_by value

/-- The octets of a number filled up to a size. -/
def padded (size value : Nat) : Octets :=
  let octets := digits value
  List.replicate (size - octets.length) 0 ++ octets

/-- The length at the front, if it is written in the shortest form and below 2^16. -/
def length? : Octets → Option (Nat × Octets)
  | [] => none
  | first :: rest =>
    if first < 0x80 then some (first.toNat, rest)
    else if first = 0x81 then
      match rest with
      | low :: rest => if low < 0x80 then none else some (low.toNat, rest)
      | [] => none
    else if first = 0x82 then
      match rest with
      | high :: low :: rest =>
        let length := 256 * high.toNat + low.toNat
        if length < 256 ∨ length = 0xFFFF then none else some (length, rest)
      | _ => none
    else none

/-- The element at the front: its tag, its content, and what follows it. -/
def read? : Octets → Option (UInt8 × Octets × Octets)
  | [] => none
  | tag :: rest => do
    if tag &&& 0x1F = 0x1F then none
    else
      let (length, rest) ← length? rest
      if rest.length < length then none
      else some (tag, rest.take length, rest.drop length)

/-- The content of the element at the front, if it has the tag, and what follows it. -/
def expect? (tag : UInt8) (input : Octets) : Option (Octets × Octets) :=
  match read? input with
  | some (found, content, rest) => if found = tag then some (content, rest) else none
  | none => none

/-- The content of an element with the tag that fills the input. -/
def whole? (tag : UInt8) (input : Octets) : Option Octets :=
  match expect? tag input with
  | some (content, []) => some content
  | _ => none

/-- The content of the element at the front if it has the tag; nothing is taken otherwise. -/
def optional (tag : UInt8) (input : Octets) : Option Octets × Octets :=
  match expect? tag input with
  | some (content, rest) => (some content, rest)
  | none => (none, input)

def writeLength (length : Nat) : Octets :=
  if length < 0x80 then [UInt8.ofNat length]
  else
    let octets := digits length
    UInt8.ofNat (0x80 + octets.length) :: octets

def write (tag : UInt8) (content : Octets) : Octets :=
  tag :: writeLength content.length ++ content

/-- The content of a whole number that is not negative: no octet more than needed to show it. -/
def naturalContent (value : Nat) : Octets :=
  let octets := digits value
  match octets with
  | [] => [0]
  | first :: _ => if first < 0x80 then octets else 0 :: octets

def writeNatural (value : Nat) : Octets :=
  write integerTag (naturalContent value)

/-- A bit string of whole octets. -/
def writeBits (octets : Octets) : Octets :=
  write bitStringTag (0 :: octets)

/-- The number of a content that writes a whole number which is not negative. -/
def natural? (content : Octets) : Option Nat :=
  let value := number content
  if content ≠ [] ∧ naturalContent value = content then some value else none

/-- The whole number at the front, which is not negative, and what follows it. -/
def expectNatural? (input : Octets) : Option (Nat × Octets) := do
  let (content, rest) ← expect? integerTag input
  let value ← natural? content
  return (value, rest)

/-- The octets of the content of a bit string that leaves no bit unused. -/
def bits? : Octets → Option Octets
  | 0 :: octets => some octets
  | _ => none

end WebGateway.Tls.Der
