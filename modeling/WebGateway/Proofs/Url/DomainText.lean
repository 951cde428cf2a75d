import WebGateway.Proofs.Http.FieldText
import WebGateway.Proofs.Results
import WebGateway.Proofs.Text.Ascii
import WebGateway.Url.Host

/-!
# What a domain name is written with

Whatever a domain name was given as, it is kept in ASCII: a label outside ASCII is written with its
ASCII characters, a hyphen and Punycode digits (`Punycode.isAscii_encode`), and no character of the
whole is one of those that end a host or a URL (`Host.mem_of_parse_eq_domain`).
-/

set_option autoImplicit false
set_option relaxedAutoImplicit false

namespace WebGateway.Url

open Text (IsAscii)

/-! ### Punycode -/

namespace Punycode

theorem toNat_digit_lt {value : Nat} (h : value < 36) : (digit value).toNat < 128 := by
  revert value
  decide

theorem isAscii_writeNumber (number position bias : Nat) :
    IsAscii (writeNumber number position bias) := by
  fun_induction writeNumber number position bias with
  | case1 number position limit hlast =>
    have hlimit : limit ≤ 26 := threshold_le position bias
    intro c hc
    rw [List.mem_singleton.mp hc]
    exact toNat_digit_lt (by omega)
  | case2 number position limit hmore ih =>
    have hlimit : limit ≤ 26 := threshold_le position bias
    have hdigit : (number - limit) % (36 - limit) < 36 - limit := Nat.mod_lt _ (by omega)
    intro c hc
    rcases List.mem_cons.mp hc with rfl | hc
    · exact toNat_digit_lt (by omega)
    · exact ih c hc

theorem isAscii_pass (basic point : Nat) {state : Writing} (h : IsAscii state.digits) (c : Char) :
    IsAscii (state.pass basic point c).digits := by
  rw [Writing.pass]
  split
  · exact h
  · split
    · exact h.append (isAscii_writeNumber _ _ _)
    · exact h

theorem isAscii_insert (basic : Nat) (label : List Char) {state : Writing}
    (h : IsAscii state.digits) (point : Nat) :
    IsAscii (state.insert basic label point).digits := by
  rw [Writing.insert]
  exact List.foldlRecOn (motive := fun state : Writing ↦ IsAscii state.digits) label _ h
    fun before hbefore c _ ↦ isAscii_pass basic point hbefore c

/-- The written form of a label is ASCII. -/
theorem isAscii_encode (label : List Char) : IsAscii (encode label) := by
  have hbasic : IsAscii (label.filter fun c ↦ c.toNat < 128) := by
    intro c hc
    simpa using (List.mem_filter.mp hc).2
  have hhyphen : IsAscii ['-'] := by
    intro c hc
    rw [List.mem_singleton.mp hc]
    decide
  have hdigits : ∀ points : List Nat, ∀ state : Writing, IsAscii state.digits →
      IsAscii (points.foldl (Writing.insert (label.filter fun c ↦ c.toNat < 128).length label)
        state).digits := by
    intro points state h
    exact List.foldlRecOn (motive := fun state : Writing ↦ IsAscii state.digits) points _ h
      fun before hbefore point _ ↦ isAscii_insert _ label hbefore point
  have hstart : IsAscii [] := by simp [IsAscii]
  rw [encode]
  refine IsAscii.append ?_ (hdigits _ _ hstart)
  split
  · exact hstart
  · exact hbasic.append hhyphen

theorem toNat_of_charOf? {point : Nat} {c : Char} (h : charOf? point = some c) :
    c.toNat = point := by
  rw [charOf?] at h
  by_cases hvalid : point.isValidChar
  · rw [dif_pos hvalid] at h
    rw [← Option.some.inj h]
    rfl
  · rw [dif_neg hvalid] at h
    cases h

end Punycode

/-! ### Labels and names -/

namespace Idna

theorem isAscii_of_writtenLabel? {label : List Nat} {text : List Char}
    (h : writtenLabel? label = some text) : IsAscii text := by
  obtain ⟨plain, hplain, htext⟩ := Option.bind_eq_some_iff.mp h
  obtain rfl := Option.some.inj htext
  split
  · next hascii =>
    intro c hc
    obtain ⟨point, hpoint, hchar⟩ := exists_mem_of_mapM_eq_some hplain hc
    rw [Punycode.toNat_of_charOf? hchar]
    exact of_decide_eq_true (List.all_eq_true.mp hascii point hpoint)
  · have hmark : "xn--".toList.all (fun c ↦ c.toNat < 128) = true := by decide
    refine IsAscii.append (fun c hc ↦ ?_) (Punycode.isAscii_encode plain)
    exact of_decide_eq_true (List.all_eq_true.mp hmark c hc)

/-- A name in its ASCII form has no character that may not stand in a host name. -/
theorem mem_of_toAscii? {domain name : List Char} (h : toAscii? domain = some name) {c : Char}
    (hc : c ∈ name) : c.toNat < 128 ∧ isForbidden c = false := by
  obtain ⟨mapped, -, h⟩ := Option.bind_eq_some_iff.mp h
  obtain ⟨labels, -, h⟩ := Option.bind_eq_some_iff.mp h
  by_cases hdirections : directionsAllowed labels = true
  case neg =>
    rw [if_neg hdirections] at h
    cases h
  rw [if_pos hdirections] at h
  obtain ⟨texts, htexts, h⟩ := Option.bind_eq_some_iff.mp h
  by_cases hforbidden : (['.'].intercalate texts).any isForbidden = true
  case pos => simp [hforbidden] at h
  simp only [hforbidden, Bool.false_eq_true, if_false, Option.some.injEq] at h
  subst h
  constructor
  · rcases Http.Method.mem_or_mem_of_mem_intercalate hc with hdot | ⟨text, htext, hmem⟩
    · rw [List.mem_singleton.mp hdot]
      decide
    · obtain ⟨label, -, hlabel⟩ := exists_mem_of_mapM_eq_some htexts htext
      exact isAscii_of_writtenLabel? hlabel c hmem
  · rw [Bool.eq_false_iff]
    intro hbad
    exact hforbidden (List.any_eq_true.mpr ⟨c, hc, hbad⟩)

end Idna

theorem Host.mem_of_parse_eq_domain {text name : List Char}
    (h : Host.parse text = .ok (.domain name)) {c : Char} (hc : c ∈ name) :
    c.toNat < 128 ∧ Idna.isForbidden c = false := by
  unfold Host.parse at h
  split at h
  · rw [Host.parseBracketed, Host.parseIPv6] at h
    split at h
    · split at h <;> cases h
    · cases h
  · split at h
    · cases h
    · cases h
    · next ascii _ hascii =>
      obtain ⟨decoded, -, hname⟩ := Option.bind_eq_some_iff.mp hascii
      split at h
      · split at h <;> cases h
      · cases h
        exact Idna.mem_of_toAscii? hname hc

end WebGateway.Url
