import WebGateway.Proofs.Gateway.Replies

/-!
# Identifiers on both sides of the gateway

A request is stamped before it is stripped, and its answer is identified from the stamped request.
So the API server receives the identifiers of the client, or else the fresh one, and the client is
told the first of them, unless the reply has an identifier of its own
(`values_xRequestId_of_received`). The two sides agree on it exactly when no `Connection` value of
the client names the field: stripping then takes away what was stamped, and the client is told an
identifier that the server never saw (`isIdentified_iff`).
-/

set_option autoImplicit false
set_option relaxedAutoImplicit false

namespace WebGateway.Gateway

open Http (HeaderName HeaderValue Headers Request Response)
open Routing (Table)
open Relay (Delivery SentRequest Server connectionNames overWire)

variable {gateway : Gateway} {server : Server} {request : Request} {sent : SentRequest}

/-- The identifiers of a request: those of the client, or else the fresh one. -/
def identifiers (fresh : HeaderValue) (headers : Headers) : List HeaderValue :=
  if headers.values .xRequestId = [] then [fresh] else headers.values .xRequestId

/-- The identifiers that a relayed reply brings with it. -/
def replyIdentifiers : Delivery → List HeaderValue
  | .answered reply => (Relay.endToEnd (reply.headers.mapValues overWire)).values .xRequestId
  | .failed _ _ => []

/-- The identifiers of the request arrive, and the client is told the first that arrived unless the
reply brings its own. -/
structure IsIdentified (fresh : HeaderValue) (request : Request) (sent : SentRequest)
    (delivery : Delivery) (response : Response) : Prop where
  values_sent : sent.headers.values .xRequestId = (identifiers fresh request.headers).map overWire
  values_response : replyIdentifiers delivery = [] →
    ∃ id, response.headers.values .xRequestId = [id] ∧
      (sent.headers.values .xRequestId).head? = some (overWire id)

theorem head?_identifiers (fresh : HeaderValue) (headers : Headers) :
    (identifiers fresh headers).head? = some ((headers.get? .xRequestId).getD fresh) := by
  rw [identifiers, Headers.get?]
  cases headers.values .xRequestId <;> rfl

theorem values_xRequestId_forward {target : Backend.Target} {scheme : Relay.InboundScheme}
    (h : Relay.sentRequest? (server.protocolAt target) target scheme request = some sent) :
    (Relay.forward server target scheme request).response.headers.values .xRequestId =
      replyIdentifiers (server.answer sent) := by
  cases hdelivery : server.answer sent with
  | answered reply =>
    rw [Relay.forward_of_answered h hdelivery]
    rfl
  | failed received cause =>
    obtain ⟨text, -, htext⟩ := exists_response_eq_ofText cause
    rw [Relay.forward_of_failed h hdelivery, htext]
    exact values_ofText _ _ _

/-- What both sides get to see of the identifiers of a request that arrived. -/
theorem values_xRequestId_of_received {extra : List String}
    (htable : Table.ofBeginnings extra = .ok gateway.routes)
    (hproxied : gateway.routes.resolve request.method request.uri.path = .handled .proxy)
    {fresh : HeaderValue} (hreceived : (gateway.handle server fresh request).received = some sent) :
    sent.headers.values .xRequestId =
        (if HeaderName.xRequestId ∈ connectionNames request.headers then []
        else (identifiers fresh request.headers).map overWire) ∧
      (gateway.handle server fresh request).response.headers.values .xRequestId =
        if replyIdentifiers (server.answer sent) = [] then
          [(request.headers.get? .xRequestId).getD fresh]
        else replyIdentifiers (server.answer sent) := by
  rw [handle_of_proxied htable hproxied] at hreceived ⊢
  have hsent := Relay.sentRequest?_eq_some_of_received hreceived
  constructor
  · rw [(hasFaithfulFields_of_sentRequest? hsent).values_xRequestId, identifiers]
    split
    · rfl
    · split <;> rfl
  · rw [Http.RequestId.values_answer, values_frame_of_ne _ _ (by decide),
      values_xRequestId_forward hsent]
    simp

/-- A request with two identifiers of its own. -/
def doublyIdentified : Request :=
  { greedyRequest with
    headers := ⟨[(.xRequestId, .ofAscii " first"), (.connection, .ofAscii "close"),
      (.xRequestId, .ofAscii "second")]⟩ }

/-- The identifiers of a request that arrived are the same on both sides exactly when no
`Connection` value of the client names their field. Where one does, none arrives, and the client is
told one all the same. -/
theorem isIdentified_iff {extra : List String}
    (htable : Table.ofBeginnings extra = .ok gateway.routes)
    (hproxied : gateway.routes.resolve request.method request.uri.path = .handled .proxy)
    {fresh : HeaderValue} (hreceived : (gateway.handle server fresh request).received = some sent) :
    (IsIdentified fresh request sent (server.answer sent)
        (gateway.handle server fresh request).response ↔
      HeaderName.xRequestId ∉ connectionNames request.headers) ∧
    (HeaderName.xRequestId ∈ connectionNames request.headers →
      sent.headers.values .xRequestId = [] ∧
      (replyIdentifiers (server.answer sent) = [] →
        (gateway.handle server fresh request).response.headers.values .xRequestId =
          [(request.headers.get? .xRequestId).getD fresh])) := by
  obtain ⟨harrived, htold⟩ := values_xRequestId_of_received htable hproxied hreceived
  have hfirst := head?_identifiers fresh request.headers
  refine ⟨⟨fun hidentified hnamed ↦ ?_, fun hnamed ↦ ⟨?_, fun hreply ↦ ?_⟩⟩, fun hnamed ↦ ⟨?_, ?_⟩⟩
  · have hnone : (identifiers fresh request.headers).map overWire = [] := by
      rw [← hidentified.values_sent, harrived, if_pos hnamed]
    rw [List.map_eq_nil_iff.mp hnone] at hfirst
    cases hfirst
  · rw [harrived, if_neg hnamed]
  · refine ⟨_, htold.trans (if_pos hreply), ?_⟩
    rw [harrived, if_neg hnamed, List.head?_map, hfirst]
    rfl
  · rw [harrived, if_pos hnamed]
  · exact fun hreply ↦ htold.trans (if_pos hreply)

/-- Both identifiers of a client arrive, and the client is told the first. -/
theorem isIdentified_doublyIdentified :
    ∃ sent exchange, exchange = (ofTarget ⟨.http, "127.0.0.1", 9000, "", none⟩).handle
        ⟨false, fun _ ↦ .failed true []⟩ (.ofAscii "given") doublyIdentified ∧
      exchange.received = some sent ∧
      sent.headers.values .xRequestId = [.ofAscii "first", .ofAscii "second"] ∧
      ∃ id, exchange.response.headers.values .xRequestId = [id] ∧
        overWire id = .ofAscii "first" := by
  have hproxied := resolve_ofTarget ⟨.http, "127.0.0.1", 9000, "", none⟩ doublyIdentified.method
    prefix_greedyRequest
  have huri : Backend.Target.uriFor ⟨.http, "127.0.0.1", 9000, "", none⟩ doublyIdentified.uri =
      .ok ⟨some "http", some "127.0.0.1:9000", "/libreapi/x", some "q"⟩ := rfl
  obtain ⟨sent, hreceived, -⟩ := exists_received_of_uriFor_eq_ok (ofBeginnings_ofTarget _)
    (isReachable_failed false) hproxied huri (.ofAscii "given")
  have hunnamed : HeaderName.xRequestId ∉ connectionNames doublyIdentified.headers := by
    decide +kernel
  obtain ⟨hvalues, htold⟩ :=
    (isIdentified_iff (ofBeginnings_ofTarget _) hproxied hreceived).1.mpr hunnamed
  have hboth : sent.headers.values .xRequestId = [.ofAscii "first", .ofAscii "second"] :=
    hvalues.trans (by decide +kernel)
  obtain ⟨id, hid, hfirst⟩ := htold rfl
  rw [hboth] at hfirst
  exact ⟨sent, _, rfl, hreceived, hboth, id, hid, (Option.some.inj hfirst).symm⟩

/-- A request that names the field of its identifier arrives without one, and the client is told
the fresh identifier that was taken away. -/
theorem not_isIdentified_greedyRequest :
    ∃ sent exchange, exchange = (ofTarget ⟨.http, "127.0.0.1", 9000, "", none⟩).handle
        ⟨false, fun _ ↦ .failed true []⟩ (.ofAscii "given") greedyRequest ∧
      exchange.received = some sent ∧ sent.headers.values .xRequestId = [] ∧
      exchange.response.headers.values .xRequestId = [.ofAscii "given"] ∧
      ¬IsIdentified (.ofAscii "given") greedyRequest sent (.failed true []) exchange.response := by
  have hproxied := resolve_ofTarget ⟨.http, "127.0.0.1", 9000, "", none⟩ greedyRequest.method
    prefix_greedyRequest
  have huri : Backend.Target.uriFor ⟨.http, "127.0.0.1", 9000, "", none⟩ greedyRequest.uri =
      .ok ⟨some "http", some "127.0.0.1:9000", "/libreapi/x", some "q"⟩ := rfl
  obtain ⟨sent, hreceived, -⟩ := exists_received_of_uriFor_eq_ok (ofBeginnings_ofTarget _)
    (isReachable_failed false) hproxied huri (.ofAscii "given")
  obtain ⟨harrived, htold⟩ :=
    values_xRequestId_of_received (ofBeginnings_ofTarget _) hproxied hreceived
  have hnone : sent.headers.values .xRequestId = [] := harrived.trans (by decide +kernel)
  refine ⟨sent, _, rfl, hreceived, hnone, htold.trans (if_pos rfl), fun hidentified ↦ ?_⟩
  have hfresh := hnone.symm.trans hidentified.values_sent
  exact absurd hfresh (by decide +kernel)

end WebGateway.Gateway
