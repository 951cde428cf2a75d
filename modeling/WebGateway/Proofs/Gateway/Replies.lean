import WebGateway.Proofs.Gateway.Fidelity

/-!
# What the client gets

A proxied request is answered with the reply of the API server or with an error of the gateway, and
which of the two depends only on what the server makes of the request that was sent. A reply is
relayed with its status, its body and its end-to-end fields (`IsRelayed`); a body that broke off
stays broken. Everything else, a target that cannot be written among it, is answered with one of two
texts and with no field but those that describe it (`IsGatewayError`).
-/

set_option autoImplicit false
set_option relaxedAutoImplicit false

namespace WebGateway.Gateway

open Http (Body HeaderName HeaderValue Headers Method Request Response UriError)
open Routing (Table)
open Relay (ErrorChain Reply Server connectionNames hopByHop isBodyless overWire)

variable {gateway : Gateway} {server : Server} {request : Request}

/-- The response relays the reply. -/
structure IsRelayed (request : Request) (reply : Reply) (response : Response) : Prop where
  status_eq : response.status = reply.status
  body_eq : response.body = if isBodyless request.method reply.status then .empty else reply.body
  /-- A body that broke off is never taken for a whole one. -/
  whole?_of_broken : ∀ octets, reply.body = .broken octets →
    isBodyless request.method reply.status = false →
      response.body = .broken octets ∧ response.body.whole? = none
  values_of_kept : ∀ name, name ≠ .contentLength → name ≠ .xRequestId → name ∉ hopByHop →
    name ∉ connectionNames reply.headers →
      response.headers.values name = (reply.headers.values name).map overWire
  values_of_stripped : ∀ name, name ≠ .contentLength → name ≠ .xRequestId →
    name ∈ hopByHop ∨ name ∈ connectionNames reply.headers → response.headers.values name = []

/-- The errors of the gateway: their statuses with their texts. -/
def errors : List (Nat × String) :=
  [(502, "Upstream request failed"), (504, "Upstream request timed out")]

/-- The response is the error of the gateway with the given status. -/
structure IsGatewayError (fresh : HeaderValue) (request : Request) (status : Nat)
    (response : Response) : Prop where
  status_eq : response.status = status
  /-- The text goes with the status; a `HEAD` gets only its length. -/
  body_eq : ∃ text, (status, text) ∈ errors ∧
    response.body = (if request.method = .head then .empty else .ofText text) ∧
    response.headers.values .contentLength = [.ofNat text.toUTF8.size]
  values_contentType : response.headers.values .contentType = [.plainText]
  values_xRequestId : response.headers.values .xRequestId =
    [(request.headers.get? .xRequestId).getD fresh]
  values_of_other : ∀ name, name ∉ [HeaderName.contentType, .contentLength, .xRequestId] →
    response.headers.values name = []

/-! ### Relayed replies -/

theorem isRelayed_relay (hmethod : request.method ≠ .connect) (id : HeaderValue) (reply : Reply) :
    IsRelayed request reply
      (Http.RequestId.answer (some id)
        (frame request.method (Relay.relay request.method reply))) := by
  have hbody : (Http.RequestId.answer (some id)
      (frame request.method (Relay.relay request.method reply))).body =
        if isBodyless request.method reply.status then .empty else reply.body := by
    rw [Http.RequestId.body_answer, body_frame_of_ne_connect hmethod]
    by_cases hhead : request.method = .head
    · simp [hhead, isBodyless]
    · rw [if_neg hhead]
      rfl
  have hvalues : ∀ name, name ≠ .contentLength → name ≠ .xRequestId →
      (Http.RequestId.answer (some id)
        (frame request.method (Relay.relay request.method reply))).headers.values name =
      if name ∈ hopByHop ∨ name ∈ connectionNames reply.headers then []
      else (reply.headers.values name).map overWire := by
    intro name hlength hid
    rw [Http.RequestId.values_answer_of_ne _ _ hid, values_frame_of_ne _ _ hlength, Relay.relay,
      Relay.values_endToEnd, Relay.connectionNames_mapValues_overWire, Headers.values_mapValues]
  refine {
    status_eq := by rw [Http.RequestId.status_answer, status_frame]; rfl
    body_eq := hbody
    whole?_of_broken := fun octets hbroken hbodyless ↦ ?broken
    values_of_kept := fun name hlength hid hhop hnamed ↦ ?kept
    values_of_stripped := fun name hlength hid hstripped ↦
      (hvalues name hlength hid).trans (if_pos hstripped) }
  case broken =>
    rw [hbody, hbodyless, hbroken]
    exact ⟨rfl, rfl⟩
  case kept =>
    exact (hvalues name hlength hid).trans (if_neg (not_or.mpr ⟨hhop, hnamed⟩))

/-! ### Errors of the gateway -/

theorem values_ofText (status : Nat) (text : String) (name : HeaderName) :
    (Response.ofText status text).headers.values name =
      if HeaderName.contentType = name then [.plainText] else [] :=
  (Headers.values_add _ _ _ _).trans (List.nil_append _)

theorem isGatewayError_ofText (hmethod : request.method ≠ .connect) (fresh : HeaderValue)
    {status : Nat} {text : String} (h : (status, text) ∈ errors) :
    IsGatewayError fresh request status
      (Http.RequestId.answer (some ((request.headers.get? .xRequestId).getD fresh))
        (frame request.method (.ofText status text))) := by
  refine {
    status_eq := by rw [Http.RequestId.status_answer, status_frame]; rfl
    body_eq := ⟨text, h, ?body, ?length⟩
    values_contentType := ?type
    values_xRequestId := ?id
    values_of_other := fun name hname ↦ ?other }
  case body => rw [Http.RequestId.body_answer, body_frame_of_ne_connect hmethod]; rfl
  case length =>
    rw [Http.RequestId.values_answer_of_ne _ _ (by decide)]
    exact values_contentLength_frame hmethod rfl (values_ofText _ _ _)
  case type =>
    rw [Http.RequestId.values_answer_of_ne _ _ (by decide), values_frame_of_ne _ _ (by decide)]
    exact values_ofText _ _ _
  case id =>
    rw [Http.RequestId.values_answer, values_frame_of_ne _ _ (by decide)]
    exact if_pos ⟨rfl, values_ofText _ _ _⟩
  case other =>
    simp only [List.mem_cons, List.not_mem_nil, or_false, not_or] at hname
    obtain ⟨htype, hlength, hid⟩ := hname
    rw [Http.RequestId.values_answer_of_ne _ _ hid, values_frame_of_ne _ _ hlength, values_ofText,
      if_neg (Ne.symm htype)]

/-- A failed exchange is answered with an error of the gateway. -/
theorem exists_response_eq_ofText (cause : ErrorChain) :
    ∃ text, (cause.status, text) ∈ errors ∧ cause.response = .ofText cause.status text := by
  by_cases htime : cause.timesOut = true
  · obtain ⟨hstatus, hresponse⟩ := ErrorChain.status_of_timesOut htime
    rw [hstatus]
    exact ⟨"Upstream request timed out", by simp [errors], hresponse⟩
  · obtain ⟨hstatus, hresponse⟩ := ErrorChain.status_of_not_timesOut htime
    rw [hstatus]
    exact ⟨"Upstream request failed", by simp [errors], hresponse⟩

/-- A reply whose body broke off and whose `Connection` value names one of its fields. -/
def brokenReply : Reply where
  status := 404
  headers := ⟨[(.location, .ofAscii "up "), (.te, .ofAscii "gzip"), (.connection, .ofAscii "Allow"),
    (.allow, .ofAscii "GET"), (.location, .ofAscii "down")]⟩
  body := .broken .empty

/-- A server that gives that reply to every request. -/
def brokenServer : Relay.Server :=
  ⟨false, fun _ ↦ .answered brokenReply⟩

/-! ### Proxied requests -/

/-- What the server makes of the request that is sent decides the answer: a reply is relayed, and a
failure is an error of the gateway. Where no target can be written, nothing is sent. -/
theorem response_of_proxied {extra : List String}
    (htable : Table.ofBeginnings extra = .ok gateway.routes)
    (hproxied : gateway.routes.resolve request.method request.uri.path = .handled .proxy)
    (hmethod : request.method ≠ .connect) (server : Server) (fresh : HeaderValue) :
    (∀ uri, gateway.target.uriFor request.uri = .ok uri →
      ∃ sent, Relay.sentRequest? (server.protocolAt gateway.target) gateway.target gateway.scheme
          (stamped fresh request) = some sent ∧
        match server.answer sent with
        | .answered reply =>
          (gateway.handle server fresh request).received = some sent ∧
            IsRelayed request reply (gateway.handle server fresh request).response
        | .failed received cause =>
          (gateway.handle server fresh request).received = (if received then some sent else none) ∧
            (cause.status = 502 ∨ cause.status = 504) ∧
            IsGatewayError fresh request cause.status
              (gateway.handle server fresh request).response) ∧
    (∀ error, gateway.target.uriFor request.uri = .error error →
      (gateway.handle server fresh request).received = none ∧
        IsGatewayError fresh request 502 (gateway.handle server fresh request).response) := by
  rw [handle_of_proxied htable hproxied]
  constructor
  · intro uri huri
    have hstamped : gateway.target.uriFor (stamped fresh request).uri = .ok uri := huri
    obtain ⟨sent, hsent, -, -⟩ := Relay.exists_sentRequest?_eq_some hstamped
      (server.protocolAt gateway.target) gateway.scheme
    refine ⟨sent, hsent, ?_⟩
    split
    · next reply hreply =>
      rw [Relay.forward_of_answered hsent hreply]
      exact ⟨rfl, isRelayed_relay hmethod _ reply⟩
    · next received cause hfailed =>
      obtain ⟨text, hmem, htext⟩ := exists_response_eq_ofText cause
      have hstatus : cause.status = 502 ∧ text = "Upstream request failed" ∨
          cause.status = 504 ∧ text = "Upstream request timed out" := by simpa [errors] using hmem
      rw [Relay.forward_of_failed hsent hfailed, htext]
      exact ⟨rfl, hstatus.imp And.left And.left, isGatewayError_ofText hmethod fresh hmem⟩
  · intro error herror
    have hunsent : Relay.sentRequest? (server.protocolAt gateway.target) gateway.target
        gateway.scheme (stamped fresh request) = none := Relay.sentRequest?_eq_none herror
    rw [Relay.forward_of_sentRequest?_eq_none hunsent]
    exact ⟨rfl, isGatewayError_ofText hmethod fresh List.mem_cons_self⟩

/-- A body that broke off arrives broken, without the fields that the reply names. -/
theorem response_of_brokenReply :
    ∃ exchange, exchange = (ofTarget ⟨.http, "127.0.0.1", 9000, "", none⟩).handle brokenServer
        (.ofAscii "named") { greedyRequest with method := .get } ∧
      exchange.received.isSome ∧ exchange.response.status = 404 ∧
      exchange.response.body.whole? = none ∧
      exchange.response.headers.values .location = [.ofAscii "up", .ofAscii "down"] ∧
      exchange.response.headers.values .te = [] ∧
      exchange.response.headers.values .allow = [] := by
  have hproxied := resolve_ofTarget ⟨.http, "127.0.0.1", 9000, "", none⟩
    ({ greedyRequest with method := .get } : Request).method prefix_greedyRequest
  obtain ⟨hanswers, -⟩ := response_of_proxied (ofBeginnings_ofTarget _) hproxied (by decide)
    brokenServer (.ofAscii "named")
  obtain ⟨sent, -, hreceived, hrelayed⟩ := hanswers
    ⟨some "http", some "127.0.0.1:9000", "/libreapi/x", some "q"⟩ rfl
  refine ⟨_, rfl, ?_, hrelayed.status_eq, (hrelayed.whole?_of_broken .empty rfl rfl).2, ?_, ?_, ?_⟩
  · rw [hreceived]
    rfl
  · exact (hrelayed.values_of_kept .location (by decide) (by decide) (by decide)
      (by decide +kernel)).trans (by decide +kernel)
  · exact hrelayed.values_of_stripped .te (by decide) (by decide) (Or.inl (by decide))
  · exact hrelayed.values_of_stripped .allow (by decide) (by decide) (Or.inr (by decide +kernel))

end WebGateway.Gateway
