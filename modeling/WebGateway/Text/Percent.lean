import WebGateway.Text.Utf8

/-!
# Percent escapes

One pass from left to right: each `%` followed by two hexadecimal digits stands for the octet they
write, and every other character for its own UTF-8 octets, a stray `%` included.
-/

set_option autoImplicit false
set_option relaxedAutoImplicit false

namespace WebGateway.Text.Percent

/-- The value of a hexadecimal digit of either case. -/
def hexValue? (c : Char) : Option Nat :=
  if '0' ≤ c ∧ c ≤ '9' then some (c.toNat - '0'.toNat)
  else if 'a' ≤ c ∧ c ≤ 'f' then some (c.toNat - 'a'.toNat + 10)
  else if 'A' ≤ c ∧ c ≤ 'F' then some (c.toNat - 'A'.toNat + 10)
  else none

/-- The octet that two hexadecimal digits write. -/
def octet? (high low : Char) : Option UInt8 := do
  let upper ← hexValue? high
  let lower ← hexValue? low
  return UInt8.ofNat (16 * upper + lower)

/-- The octets that a text with escapes stands for. -/
def decode : List Char → List UInt8
  | [] => []
  | '%' :: high :: low :: rest =>
    match octet? high low with
    | some octet => octet :: decode rest
    | none => String.utf8EncodeChar '%' ++ decode (high :: low :: rest)
  | c :: rest => String.utf8EncodeChar c ++ decode rest

@[simp]
theorem decode_nil : decode [] = [] :=
  rfl

/-- A character other than `%` stands for itself. -/
theorem decode_cons_of_ne {c : Char} (hc : c ≠ '%') (rest : List Char) :
    decode (c :: rest) = String.utf8EncodeChar c ++ decode rest := by
  rw [decode]
  intro high low tail heq
  exact absurd heq hc

/-- An escape stands for its octet. -/
theorem decode_escape {high low : Char} {octet : UInt8} (h : octet? high low = some octet)
    (rest : List Char) : decode ('%' :: high :: low :: rest) = octet :: decode rest := by
  simp [decode, h]

/-- The upper-case hexadecimal digit of a value below sixteen. -/
def hexDigit (value : Nat) : Char :=
  if value < 10 then Char.ofNat ('0'.toNat + value) else Char.ofNat ('A'.toNat + value - 10)

/-- The escape of an octet, in upper case. -/
def escape (octet : UInt8) : List Char :=
  ['%', hexDigit (octet.toNat / 16), hexDigit (octet.toNat % 16)]

/-- The text with each character of the set written as the escapes of its octets. -/
def encode (escaped : Char → Bool) (text : List Char) : List Char :=
  text.flatMap fun c ↦ if escaped c then (String.utf8EncodeChar c).flatMap escape else [c]

end WebGateway.Text.Percent
