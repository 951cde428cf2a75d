import WebGateway.Proofs.Text.Ascii
import WebGateway.Text.Percent

/-!
# Escapes and what they stand for

The escapes of some octets, with hexadecimal digits in any case, are decoded to these octets
whatever follows them (`decode_append_of_toUpper`). An escaped text is made of percent signs,
hexadecimal digits and the characters that need no escape (`mem_encode`).
-/

set_option autoImplicit false
set_option relaxedAutoImplicit false

namespace WebGateway.Text.Percent

/-- The characters of escapes. -/
def escapeChars : List Char :=
  ['%', '0', '1', '2', '3', '4', '5', '6', '7', '8', '9', 'A', 'B', 'C', 'D', 'E', 'F']

/-! ### Digits -/

theorem hexValue?_toUpper (c : Char) : hexValue? c.toUpper = hexValue? c := by
  refine forall_of_ascii ?ascii ?other c
  case ascii => decide
  case other =>
    intro c hc
    rw [toUpper_of_le hc]

theorem eq_percent_of_toUpper {c : Char} (h : c.toUpper = '%') : c = '%' := by
  revert h
  refine forall_of_ascii ?ascii ?other c
  case ascii => decide
  case other =>
    intro c hc h
    rwa [toUpper_of_le hc] at h

theorem hexValue?_hexDigit {value : Nat} (h : value < 16) :
    hexValue? (hexDigit value) = some value := by
  revert value
  decide

theorem hexDigit_mem_escapeChars {value : Nat} (h : value < 16) :
    hexDigit value ∈ escapeChars := by
  revert value
  decide

theorem div_lt_and_mod_lt (octet : UInt8) : octet.toNat / 16 < 16 ∧ octet.toNat % 16 < 16 := by
  have hoctet := octet.toNat_lt
  omega

theorem map_toUpper_escape (octet : UInt8) : (escape octet).map Char.toUpper = escape octet := by
  have hdigit : ∀ value < 16, (hexDigit value).toUpper = hexDigit value := by decide
  obtain ⟨hupper, hlower⟩ := div_lt_and_mod_lt octet
  rw [escape, List.map_cons, List.map_cons, List.map_singleton, hdigit _ hupper, hdigit _ hlower]
  rfl

/-- Two digits in any case write the octet whose digits they are. -/
theorem octet?_of_toUpper {high low : Char} {octet : UInt8}
    (hhigh : high.toUpper = hexDigit (octet.toNat / 16))
    (hlow : low.toUpper = hexDigit (octet.toNat % 16)) : octet? high low = some octet := by
  obtain ⟨hupper, hlower⟩ := div_lt_and_mod_lt octet
  have hhighValue : hexValue? high = some (octet.toNat / 16) := by
    rw [← hexValue?_toUpper, hhigh, hexValue?_hexDigit hupper]
  have hlowValue : hexValue? low = some (octet.toNat % 16) := by
    rw [← hexValue?_toUpper, hlow, hexValue?_hexDigit hlower]
  have hwhole : 16 * (octet.toNat / 16) + octet.toNat % 16 = octet.toNat :=
    Nat.div_add_mod octet.toNat 16
  simp only [octet?, hhighValue, hlowValue, Option.bind_eq_bind, Option.bind_some, hwhole,
    UInt8.ofNat_toNat, pure]

/-! ### Texts -/

theorem decode_append_of_toUpper {octets : List UInt8} {text : List Char}
    (h : text.map Char.toUpper = octets.flatMap escape) (rest : List Char) :
    decode (text ++ rest) = octets ++ decode rest := by
  induction octets generalizing text with
  | nil =>
    obtain rfl : text = [] := List.map_eq_nil_iff.mp h
    rfl
  | cons octet octets ih =>
    obtain ⟨mark, digits, rfl, hmark, hdigits⟩ := List.map_eq_cons_iff.mp h
    obtain ⟨high, behind, rfl, hhigh, hbehind⟩ := List.map_eq_cons_iff.mp hdigits
    obtain ⟨low, others, rfl, hlow, hothers⟩ := List.map_eq_cons_iff.mp hbehind
    obtain rfl := eq_percent_of_toUpper hmark
    show decode ('%' :: high :: low :: (others ++ rest)) = _
    rw [decode_escape (octet?_of_toUpper hhigh hlow), ih hothers, List.cons_append]

theorem mem_escapeChars_of_mem_escape {octet : UInt8} {c : Char} (hc : c ∈ escape octet) :
    c ∈ escapeChars := by
  obtain ⟨hupper, hlower⟩ := div_lt_and_mod_lt octet
  simp only [escape, List.mem_cons, List.not_mem_nil, or_false] at hc
  rcases hc with rfl | rfl | rfl
  · exact List.mem_cons_self
  · exact hexDigit_mem_escapeChars hupper
  · exact hexDigit_mem_escapeChars hlower

/-- What stands in an escaped text is part of an escape or needs none. -/
theorem mem_encode {escaped : Char → Bool} {text : List Char} {c : Char}
    (hc : c ∈ encode escaped text) : c ∈ escapeChars ∨ c ∈ text ∧ escaped c = false := by
  obtain ⟨source, hsource, hc⟩ := List.mem_flatMap.mp hc
  by_cases hescaped : escaped source = true
  · rw [if_pos hescaped] at hc
    obtain ⟨octet, -, hc⟩ := List.mem_flatMap.mp hc
    exact Or.inl (mem_escapeChars_of_mem_escape hc)
  · rw [if_neg hescaped, List.mem_singleton] at hc
    subst hc
    exact Or.inr ⟨hsource, by simpa using hescaped⟩

end WebGateway.Text.Percent
