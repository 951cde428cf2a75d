import Mathlib.Data.List.TakeWhile
import WebGateway.Proofs.Backend.Authority
import WebGateway.Relay.Framing

/-!
# How requests are written

The host of an API server is found again in its authority, also when it is an address in brackets
(`hostOf_authority`). So the host that a request names is the authority of the server, in HTTP/1.1
without a port that the scheme implies (`hostText_of_parse`). A body of known length is sent in
full, unless the header section gives it another length (`sentBody_eq`).
-/

set_option autoImplicit false
set_option relaxedAutoImplicit false

namespace WebGateway.Relay

open Backend (IsBracketed Target isUnwritable)
open Http (HeaderName HeaderValue Headers Method Request)
open Http.Uri (isNameChar isNameChar_iff)

/-! ### Hosts -/

theorem mem_of_mem_hostOf {authority : List Char} {c : Char} (hc : c ∈ hostOf authority) :
    c ∈ authority := by
  have hplace : ∀ d ∈ (authority.reverse.takeWhile (· ≠ '@')).reverse, d ∈ authority :=
    fun d hd ↦ List.mem_reverse.mp ((List.takeWhile_prefix _).subset (List.mem_reverse.mp hd))
  rw [hostOf] at hc
  split at hc
  · rcases List.mem_append.mp hc with hc | hc
    · exact hplace c ((List.takeWhile_prefix _).subset hc)
    · exact hplace c ((List.dropWhile_suffix _).subset (List.mem_of_mem_take hc))
  · exact hplace c ((List.takeWhile_prefix _).subset hc)

/-- All that stands in the host of a request stands in the authority of the server. -/
theorem mem_authority_of_mem_hostText {protocol : Protocol} {target : Target} {c : Char}
    (hc : c ∈ (hostText protocol target).toList) : c ∈ target.authority.toList := by
  have hhost : ∀ d ∈ (String.ofList (hostOf target.authority.toList)).toList,
      d ∈ target.authority.toList := fun d hd ↦
    mem_of_mem_hostOf (by rwa [String.toList_ofList] at hd)
  have hport : ∀ d ∈ (":" ++ toString target.port.toNat).toList, d ∈ target.authority.toList := by
    intro d hd
    rw [Target.authority, String.append_assoc, String.toList_append]
    exact List.mem_append_right _ hd
  cases protocol with
  | http2 => exact hc
  | http1 =>
    rw [hostText] at hc
    split at hc
    · exact hhost c hc
    · rw [String.append_assoc, String.toList_append] at hc
      exact (List.mem_append.mp hc).elim (hhost c) (hport c)

/-- Without an at sign there is nothing in front of the host. -/
theorem hostOf_of_no_at {authority : List Char} (h : '@' ∉ authority) :
    hostOf authority =
      if authority.head? = some '[' then
        authority.takeWhile (· ≠ ']') ++ (authority.dropWhile (· ≠ ']')).take 1
      else authority.takeWhile (· ≠ ':') := by
  have hall : ∀ c ∈ authority.reverse, decide (c ≠ '@') = true := by
    intro c hc
    simpa using fun heq : c = '@' ↦ h (heq ▸ List.mem_reverse.mp hc)
  rw [hostOf, List.takeWhile_eq_self_iff.mpr hall, List.reverse_reverse]

/-- A name is the host of the authority that it makes with a port. -/
theorem hostOf_of_name {host port : List Char}
    (hhost : ∀ c ∈ host, c ≠ ':' ∧ c ≠ '[' ∧ c ≠ '@') (hport : '@' ∉ port) :
    hostOf (host ++ ':' :: port) = host := by
  have hat : '@' ∉ host ++ ':' :: port := by
    simpa [hport] using fun hmem ↦ (hhost '@' hmem).2.2 rfl
  have hhead : (host ++ ':' :: port).head? ≠ some '[' := by
    cases host with
    | nil => simp
    | cons first rest => simpa using (hhost first List.mem_cons_self).2.1
  rw [hostOf_of_no_at hat, if_neg hhead, List.takeWhile_append_of_pos]
  · simp
  · intro c hc
    simpa using (hhost c hc).1

/-- An address in brackets is the host of the authority that it makes with a port. -/
theorem hostOf_of_bracketed {inner port : List Char} (hinner : ∀ c ∈ inner, c ≠ ']' ∧ c ≠ '@')
    (hport : '@' ∉ port) :
    hostOf ('[' :: inner ++ ']' :: ':' :: port) = '[' :: inner ++ [']'] := by
  have hat : '@' ∉ '[' :: inner ++ ']' :: ':' :: port := by
    simpa [hport] using fun hmem ↦ (hinner '@' hmem).2 rfl
  have hopen : ∀ c ∈ '[' :: inner, decide (c ≠ ']') = true := by
    intro c hc
    rcases List.mem_cons.mp hc with rfl | hc
    · decide
    · simpa using (hinner c hc).1
  have hhead : ('[' :: inner ++ ']' :: ':' :: port).head? = some '[' := rfl
  rw [hostOf_of_no_at hat, if_pos hhead, List.takeWhile_append_of_pos hopen,
    List.dropWhile_append_of_pos hopen]
  simp

section Hosts

variable {text : String} {target : Target} (h : Target.parse text = .ok target)

include h

/-- The host of a server that is configured is found again in its authority. -/
theorem hostOf_authority : hostOf target.authority.toList = target.host.toList := by
  have hport : '@' ∉ (toString target.port.toNat).toList := fun hat ↦
    (isNameChar_iff.mp (Backend.isNameChar_of_mem_toString hat)).2.2.2.2 rfl
  rw [Target.authority_eq h, String.toList_ofList]
  rcases Target.host_cases h with hname | ⟨inner, hinner⟩
  · refine hostOf_of_name (fun c hc ↦ ?_) hport
    rcases hname c hc with hchar | hunwritable
    · obtain ⟨-, hcolon, hopen, -, hat⟩ := isNameChar_iff.mp hchar
      exact ⟨hcolon, hopen, hat⟩
    · refine ⟨?_, ?_, ?_⟩ <;> rintro rfl <;> revert hunwritable <;> decide
  · rw [hinner.text_eq, List.append_assoc]
    refine hostOf_of_bracketed (fun c hc ↦ ?_) hport
    rcases hinner.chars c hc with hchar | rfl
    · obtain ⟨-, -, -, hclose, hat⟩ := isNameChar_iff.mp hchar
      exact ⟨hclose, hat⟩
    · decide

/-- A request names the authority of its server, in HTTP/1.1 without a port that is implied. -/
theorem hostText_of_parse (protocol : Protocol) :
    hostText protocol target =
      if protocol = .http1 ∧ target.port = target.scheme.defaultPort then
        Target.bracketed target.host
      else target.authority := by
  have hhost : String.ofList (hostOf target.authority.toList) = Target.bracketed target.host := by
    rw [hostOf_authority h, String.ofList_toList, Target.bracketed_host h]
  cases protocol with
  | http2 => rfl
  | http1 =>
    simp only [hostText, hhost, true_and]
    rfl

end Hosts

/-! ### Bodies -/

theorem announcedLength?_eq_none {headers : Headers} (h : headers.values .contentLength = []) :
    announcedLength? headers = none := by
  rw [announcedLength?, h]
  rfl

/-- A body of known length is sent in full where nothing else is said about its length. -/
theorem sentBody_eq {protocol : Protocol} {headers : Headers} {request : Request}
    (hlength : headers.values .contentLength = []) (hknown : request.isStreamed = false) :
    sentBody protocol headers request = request.body := by
  cases protocol with
  | http1 => simp [sentBody, announcedLength?_eq_none hlength, hknown]
  | http2 => rfl

end WebGateway.Relay
