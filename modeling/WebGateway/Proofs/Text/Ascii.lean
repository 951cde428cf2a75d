import Mathlib.Tactic.SplitIfs

/-!
# Facts about single characters

A fact about all characters is checked for each of the 128 characters of ASCII and argued once for
the others (`forall_of_ascii`), which have no case.
-/

set_option autoImplicit false
set_option relaxedAutoImplicit false

namespace WebGateway.Text

/-- Every character of the text is ASCII. -/
def IsAscii (text : List Char) : Prop :=
  ∀ c ∈ text, c.toNat < 128

/-- What holds of every ASCII character and of every character outside ASCII holds of all. -/
@[elab_as_elim]
theorem forall_of_ascii {motive : Char → Prop} (hascii : ∀ point < 128, motive (Char.ofNat point))
    (hother : ∀ c : Char, 128 ≤ c.toNat → motive c) (c : Char) : motive c := by
  by_cases hc : c.toNat < 128
  · rw [← Char.ofNat_toNat c]
    exact hascii c.toNat hc
  · exact hother c (Nat.not_lt.mp hc)

theorem IsAscii.append {first second : List Char} (hfirst : IsAscii first)
    (hsecond : IsAscii second) : IsAscii (first ++ second) := by
  intro c hc
  rcases List.mem_append.mp hc with hc | hc
  · exact hfirst c hc
  · exact hsecond c hc

theorem toLower_of_le {c : Char} (hc : 128 ≤ c.toNat) : c.toLower = c := by
  have hupper : ¬(c.val ≥ 'A'.val ∧ c.val ≤ 'Z'.val) := by
    rintro ⟨-, hle⟩
    have hnat : c.toNat ≤ 90 := UInt32.le_iff_toNat_le.mp hle
    omega
  exact dif_neg hupper

theorem toUpper_of_le {c : Char} (hc : 128 ≤ c.toNat) : c.toUpper = c := by
  have hlower : ¬(c.val ≥ 'a'.val ∧ c.val ≤ 'z'.val) := by
    rintro ⟨-, hle⟩
    have hnat : c.toNat ≤ 122 := UInt32.le_iff_toNat_le.mp hle
    omega
  exact dif_neg hlower

/-- Outside ASCII a character is written with octets outside ASCII. -/
theorem le_of_mem_utf8EncodeChar {c : Char} (hc : 128 ≤ c.toNat) {octet : UInt8}
    (hoctet : octet ∈ String.utf8EncodeChar c) : 128 ≤ octet.toNat := by
  have hwide : ∀ number, 128 ≤ number → number < 256 → 128 ≤ (UInt8.ofNat number).toNat := by
    intro number hlow hhigh
    rw [UInt8.toNat_ofNat', Nat.mod_eq_of_lt hhigh]
    exact hlow
  have hpoint : ¬c.val.toNat ≤ 0x7F := Nat.not_le.mpr hc
  simp only [String.utf8EncodeChar, if_neg hpoint] at hoctet
  split_ifs at hoctet with htwo hthree
  · simp only [List.mem_cons, List.not_mem_nil, or_false] at hoctet
    rcases hoctet with rfl | rfl <;> exact hwide _ (by omega) (by omega)
  · simp only [List.mem_cons, List.not_mem_nil, or_false] at hoctet
    rcases hoctet with rfl | rfl | rfl <;> exact hwide _ (by omega) (by omega)
  · simp only [List.mem_cons, List.not_mem_nil, or_false] at hoctet
    rcases hoctet with rfl | rfl | rfl | rfl <;> exact hwide _ (by omega) (by omega)

end WebGateway.Text
