import WebGateway.Backend.Target
import WebGateway.Proofs.Http.AuthorityReading
import WebGateway.Proofs.Net.AddressText
import WebGateway.Proofs.Url.DomainText
import WebGateway.Proofs.Url.Parts

/-!
# The authority of the API server

The host of a configured URL is an address or a name of signs that may stand in the host of a URL.
All of these may stand in the authority of a request but four (`isUnwritable`), so the authority of
an API server can be read exactly when its host has none of the four (`parseAuthority_authority`,
`parseAuthority_authority_of_unwritable`).
-/

set_option autoImplicit false
set_option relaxedAutoImplicit false

namespace WebGateway.Backend

open Http.Uri (isForeign isNameChar parseAuthority)
open Url (Host)

/-- The character may stand in the host of a URL, but not in the authority of a request. -/
def isUnwritable (c : Char) : Bool :=
  "\"\x60\x7b\x7d".toList.contains c

/-! ### Characters -/

theorem isForeign_of_isUnwritable {c : Char} (hc : isUnwritable c = true) : isForeign c = true := by
  have hall : "\"\x60\x7b\x7d".toList.all isForeign = true := by decide
  exact List.all_eq_true.mp hall c (List.contains_iff_mem.mp hc)

theorem isUnwritable_eq_false_of_isNameChar {c : Char} (hc : isNameChar c = true) :
    isUnwritable c = false := by
  rw [Bool.eq_false_iff]
  intro hunwritable
  have hforeign := isForeign_of_isUnwritable hunwritable
  simp [isForeign, (Http.Uri.isNameChar_iff.mp hc).1] at hforeign

theorem isNameChar_or_isUnwritable {c : Char} (hascii : c.toNat < 128)
    (hallowed : Url.Idna.isForbidden c = false) : isNameChar c = true ∨ isUnwritable c = true := by
  revert hascii hallowed
  refine Text.forall_of_ascii ?ascii ?other c
  case ascii => decide
  case other =>
    intro c hc hascii
    omega

theorem isNameChar_or_eq_colon_of_isAddressChar {c : Char} (hc : Net.isAddressChar c = true) :
    isNameChar c = true ∨ c = ':' := by
  have hall : Net.addressChars.all (fun c ↦ isNameChar c || c == ':') = true := by decide
  simpa using List.all_eq_true.mp hall c (List.contains_iff_mem.mp hc)

theorem isNameChar_of_mem_toString {number : Nat} {c : Char} (hc : c ∈ (toString number).toList) :
    isNameChar c = true := by
  rcases isNameChar_or_eq_colon_of_isAddressChar (Net.isAddressChar_of_mem_toString hc) with
    hname | rfl
  · exact hname
  · rw [Nat.toString_eq_ofList_toDigits, String.toList_ofList] at hc
    exact absurd hc (Net.colon_notMem_toDigits (by decide) (by decide) number)

/-! ### Hosts -/

/-- The text is an IPv6 address in brackets, as far as the reader of an authority can tell. -/
structure IsBracketed (text inner : List Char) : Prop where
  text_eq : text = '[' :: inner ++ [']']
  chars : ∀ c ∈ inner, isNameChar c = true ∨ c = ':'
  colons : inner.count ':' ≤ 8

theorem IsBracketed.isUnwritable_eq_false {text inner : List Char} (h : IsBracketed text inner)
    {c : Char} (hc : c ∈ text) : isUnwritable c = false := by
  rw [h.text_eq, List.cons_append, List.mem_cons, List.mem_append, List.mem_singleton] at hc
  rcases hc with rfl | hc | rfl
  · decide
  · rcases h.chars c hc with hname | rfl
    · exact isUnwritable_eq_false_of_isNameChar hname
    · decide
  · decide

/-- A host is a name or an address in brackets. -/
theorem name_or_isBracketed_of_parse {text : List Char} {host : Host}
    (h : Host.parse text = .ok host) :
    (∀ c ∈ host.toText.toList, isNameChar c = true ∨ isUnwritable c = true) ∨
      ∃ inner, IsBracketed host.toText.toList inner := by
  cases host with
  | domain name =>
    refine Or.inl fun c hc ↦ ?_
    rw [Host.toText, String.toList_ofList] at hc
    obtain ⟨hascii, hallowed⟩ := Host.mem_of_parse_eq_domain h hc
    exact isNameChar_or_isUnwritable hascii hallowed
  | ipv4 address =>
    refine Or.inl fun c hc ↦ Or.inl ?_
    rw [Host.toText] at hc
    rcases isNameChar_or_eq_colon_of_isAddressChar (Net.IPv4.isAddressChar_of_mem_toText hc) with
      hname | rfl
    · exact hname
    · exact absurd hc (Net.IPv4.colon_notMem_toText address)
  | ipv6 address =>
    refine Or.inr ⟨address.toText.toList, ?_, fun c hc ↦ ?_,
      Net.IPv6.count_colon_toText_le address⟩
    · rw [Host.toText, String.toList_append, String.toList_append]
      rfl
    · exact isNameChar_or_eq_colon_of_isAddressChar (Net.IPv6.isAddressChar_of_mem_toText hc)

namespace Target

theorem exists_url_of_parse {text : String} {target : Target} (h : parse text = .ok target) :
    ∃ url, Url.parse text = .ok (some url) ∧ target = ofUrl url := by
  rw [parse] at h
  cases hurl : Url.parse text with
  | error cause =>
    rw [hurl] at h
    cases h
  | ok found =>
    cases found with
    | none =>
      rw [hurl] at h
      cases h
    | some url =>
      rw [hurl] at h
      exact ⟨url, rfl, (Except.ok.inj h).symm⟩

/-- No brackets are put around a host that has no colon or has brackets already. -/
theorem bracketed_eq_self {host : String}
    (h : ':' ∉ host.toList ∨ host.toList.head? = some '[') : bracketed host = host := by
  rw [bracketed, if_neg]
  rcases h with hcolon | hhead
  · simp [hcolon]
  · simp [hhead]

section Hosts

variable {text : String} {target : Target} (h : parse text = .ok target)

include h

theorem host_cases :
    (∀ c ∈ target.host.toList, isNameChar c = true ∨ isUnwritable c = true) ∨
      ∃ inner, IsBracketed target.host.toList inner := by
  obtain ⟨url, hurl, rfl⟩ := exists_url_of_parse h
  obtain ⟨name, path, query, hhost, -, -⟩ := Url.exists_of_parse_eq_some hurl
  exact name_or_isBracketed_of_parse hhost

/-- A host that was read stands in the authority as it is. -/
theorem bracketed_host : bracketed target.host = target.host := by
  refine bracketed_eq_self ?_
  rcases host_cases h with hname | ⟨inner, hinner⟩
  · refine Or.inl fun hcolon ↦ ?_
    rcases hname ':' hcolon with hc | hc <;> revert hc <;> decide
  · exact Or.inr (by rw [hinner.text_eq]; rfl)

/-- The authority is the host as it stands and the port. -/
theorem authority_eq :
    target.authority =
      String.ofList (target.host.toList ++ ':' :: (toString target.port.toNat).toList) := by
  rw [authority, bracketed_host h, ← String.toList_inj]
  simp

/-- The authority of an API server whose host can be written in a request can be read there. -/
theorem parseAuthority_authority (hhost : ∀ c ∈ target.host.toList, isUnwritable c = false) :
    parseAuthority target.authority = .ok target.authority := by
  have hport : ∀ c ∈ (toString target.port.toNat).toList, isNameChar c = true :=
    fun c hc ↦ isNameChar_of_mem_toString hc
  rw [authority_eq h]
  rcases host_cases h with hname | ⟨inner, hinner⟩
  · refine Http.Uri.parseAuthority_of_name hport fun c hc ↦ ?_
    refine (hname c hc).resolve_right ?_
    rw [hhost c hc]
    exact Bool.false_ne_true
  · rw [hinner.text_eq]
    have hread := Http.Uri.parseAuthority_of_bracketed hport hinner.chars hinner.colons
    rwa [List.append_assoc]

/-- The authority of any other API server cannot be read. -/
theorem parseAuthority_authority_of_unwritable
    (hhost : ∃ c ∈ target.host.toList, isUnwritable c = true) :
    parseAuthority target.authority = .error .badCharacter := by
  obtain ⟨c, hc, hunwritable⟩ := hhost
  rw [authority_eq h]
  rcases host_cases h with hname | ⟨inner, hinner⟩
  · exact Http.Uri.parseAuthority_of_isForeign
      (fun d hd ↦ (hname d hd).imp_right isForeign_of_isUnwritable)
      ⟨c, hc, isForeign_of_isUnwritable hunwritable⟩ _
  · rw [hinner.isUnwritable_eq_false hc] at hunwritable
    cases hunwritable

end Hosts

end Target

end WebGateway.Backend
