import WebGateway.Proofs.Http.UriReading
import WebGateway.Proofs.Relay.EndToEnd
import WebGateway.Proofs.Relay.Framing
import WebGateway.Relay.Forwarding

/-!
# What is sent on

A request is sent on exactly when its target at the API server can be written: the authority of the
server is then a text of visible ASCII, and so is the `Host` value that is cut out of it
(`exists_sentRequest?_eq_some`, `sentRequest?_eq_none`). Apart from the fields that record the
client, the header section that is sent is the stripped one without the host
(`values_sentHeaders`). What is sent arrives at a server that can be reached, and nothing else ever
does (`received_forward_of_isReachable`, `sentRequest?_eq_some_of_received`).
-/

set_option autoImplicit false
set_option relaxedAutoImplicit false

namespace WebGateway.Relay

open Backend (Target)
open Http (HeaderName HeaderValue Headers Request Uri UriError)

variable {server : Server} {protocol : Protocol} {target : Target} {scheme : InboundScheme}
  {request : Request} {sent : SentRequest}

/-- The host of a server can be written where its authority can be read. -/
theorem exists_ofText?_hostText {uri read : Uri} (h : target.uriFor uri = .ok read)
    (protocol : Protocol) : ∃ host, HeaderValue.ofText? (hostText protocol target) = some host := by
  obtain ⟨split, hauthority, -, -⟩ := Uri.build_eq_ok_iff.mp h
  have hreadable := (Uri.parseAuthority_eq_ok hauthority).2
  obtain ⟨host, hhost, -⟩ := HeaderValue.exists_ofText?_eq_some fun c hc ↦
    hreadable c (mem_authority_of_mem_hostText hc)
  exact ⟨host, hhost⟩

/-- What is sent on is written for the target that could be read. -/
theorem sentRequest?_eq_some_iff :
    sentRequest? protocol target scheme request = some sent ↔
      ∃ uri host, target.uriFor request.uri = .ok uri ∧
        HeaderValue.ofText? (hostText protocol target) = some host ∧
        sent = {
          protocol := protocol
          method := request.method
          target := targetText target request.method uri.target
          host := host
          headers := (sentHeaders scheme request).mapValues overWire
          body := sentBody protocol (sentHeaders scheme request) request } := by
  rw [sentRequest?]
  constructor
  · intro h
    split at h
    · next uri host huri hhost => exact ⟨uri, host, huri, hhost, (Option.some.inj h).symm⟩
    · cases h
  · rintro ⟨uri, host, huri, hhost, rfl⟩
    rw [huri, hhost]

theorem exists_sentRequest?_eq_some {uri : Uri} (h : target.uriFor request.uri = .ok uri)
    (protocol : Protocol) (scheme : InboundScheme) :
    ∃ sent, sentRequest? protocol target scheme request = some sent ∧
      sent.protocol = protocol ∧ sent.target = targetText target request.method uri.target := by
  obtain ⟨host, hhost⟩ := exists_ofText?_hostText h protocol
  exact ⟨_, sentRequest?_eq_some_iff.mpr ⟨uri, host, h, hhost, rfl⟩, rfl, rfl⟩

theorem sentRequest?_eq_none {error : UriError} (h : target.uriFor request.uri = .error error) :
    sentRequest? protocol target scheme request = none := by
  rw [sentRequest?, h]

/-- A target that would be too long cannot be written. -/
theorem exists_uriFor_eq_error {uri : Uri}
    (h : Http.maxUriSize < (target.pathQuery uri).utf8ByteSize) :
    ∃ error, target.uriFor uri = .error error := by
  cases hread : target.uriFor uri with
  | error error => exact ⟨error, rfl⟩
  | ok read =>
    obtain ⟨split, -, hpath, -⟩ := Uri.build_eq_ok_iff.mp hread
    simp [Uri.parsePathQuery_of_lt h] at hpath

/-- A field that does not record clients is sent on with all its values, or not at all. -/
theorem values_sentHeaders (scheme : InboundScheme) (request : Request) {name : HeaderName}
    (h : name ∉ forwardingNames) :
    (sentHeaders scheme request).values name =
      if name = .host ∨ name ∈ hopByHop ∨ name ∈ connectionNames request.headers then []
      else request.headers.values name := by
  rw [sentHeaders, values_recordForwarded _ _ _ _ h, Headers.values_erase, values_endToEnd]
  by_cases hhost : name = .host <;> simp [hhost]

/-- The fields that record the client are computed from the stripped section. -/
theorem values_sentHeaders_of_mem (scheme : InboundScheme) (request : Request) {name : HeaderName}
    (h : name ∈ forwardingNames) :
    (sentHeaders scheme request).values name =
      (recordForwarded request.client scheme (addressedHost? request)
        (endToEnd request.headers)).values name := by
  have hhost : ∀ other ∈ forwardingNames, other ≠ .host := by decide
  refine values_recordForwarded_congr _ _ _ (fun other hother ↦ ?_) h
  rw [Headers.values_erase, if_neg (hhost other hother)]

/-! ### What arrives -/

/-- Every request arrives, whatever becomes of it there. -/
def Server.IsReachable (server : Server) : Prop :=
  ∀ sent cause, server.answer sent ≠ .failed false cause

theorem forward_of_sentRequest?_eq_none
    (h : sentRequest? (server.protocolAt target) target scheme request = none) :
    forward server target scheme request = ⟨unsendable, none⟩ := by
  rw [forward, h]

theorem forward_of_answered {reply : Reply}
    (h : sentRequest? (server.protocolAt target) target scheme request = some sent)
    (hreply : server.answer sent = .answered reply) :
    forward server target scheme request = ⟨relay request.method reply, some sent⟩ := by
  simp only [forward, h, hreply]

theorem forward_of_failed {received : Bool} {cause : ErrorChain}
    (h : sentRequest? (server.protocolAt target) target scheme request = some sent)
    (hfailed : server.answer sent = .failed received cause) :
    forward server target scheme request =
      ⟨cause.response, if received then some sent else none⟩ := by
  simp only [forward, h, hfailed]

theorem received_forward_of_isReachable (hreach : server.IsReachable)
    (h : sentRequest? (server.protocolAt target) target scheme request = some sent) :
    (forward server target scheme request).received = some sent := by
  cases hdelivery : server.answer sent with
  | answered reply => rw [forward_of_answered h hdelivery]
  | failed received cause =>
    cases received with
    | false => exact absurd hdelivery (hreach sent cause)
    | true => rw [forward_of_failed h hdelivery, if_pos rfl]

/-- Only the request that was sent is received. -/
theorem sentRequest?_eq_some_of_received
    (h : (forward server target scheme request).received = some sent) :
    sentRequest? (server.protocolAt target) target scheme request = some sent := by
  cases hwritten : sentRequest? (server.protocolAt target) target scheme request with
  | none => simp [forward_of_sentRequest?_eq_none hwritten] at h
  | some written =>
    cases hdelivery : server.answer written with
    | answered reply => rwa [forward_of_answered hwritten hdelivery] at h
    | failed received cause =>
      rw [forward_of_failed hwritten hdelivery] at h
      cases received with
      | false => simp at h
      | true => exact h

end WebGateway.Relay
