import WebGateway.Proofs.Gateway.Identification
import WebGateway.Proofs.Gateway.Separation

/-!
# Every response is identified

No response leaves the gateway without an identifier. A reply that is relayed keeps its own, as they
arrived, unless its `Connection` values name their field; every other response gets one, which is
the first of the request or else the fresh one. This holds for every request, also for those that
lead nowhere, and whatever the API server makes of a request that is forwarded
(`values_xRequestId_handle`).
-/

set_option autoImplicit false
set_option relaxedAutoImplicit false

namespace WebGateway.Gateway

open Http (HeaderName HeaderValue Headers Request)
open Relay (Delivery Reply Server connectionNames overWire)

variable {gateway : Gateway} {server : Server} {request : Request}

instance (gateway : Gateway) (request : Request) : Decidable (gateway.IsForwarded request) :=
  inferInstanceAs (Decidable (_ ∧ _))

/-- What the API server makes of a request that is forwarded to it. -/
def delivery? (gateway : Gateway) (server : Server) (request : Request) : Option Delivery :=
  if gateway.IsForwarded request then
    (Relay.sentRequest? (server.protocolAt gateway.target) gateway.target gateway.scheme
      request).map server.answer
  else none

/-- A reply brings the identifiers with which it arrived, unless it names their field. -/
theorem replyIdentifiers_answered (reply : Reply) :
    replyIdentifiers (.answered reply) =
      if HeaderName.xRequestId ∈ connectionNames reply.headers then []
      else (reply.headers.values .xRequestId).map overWire := by
  have hhop : HeaderName.xRequestId ∉ Relay.hopByHop := by decide
  rw [replyIdentifiers, Relay.values_endToEnd, Relay.connectionNames_mapValues_overWire,
    Headers.values_mapValues]
  simp [hhop]

/-- Before a response is identified, it has the identifiers of the reply that is relayed. -/
theorem values_xRequestId_dispatch (gateway : Gateway) (server : Server) (request : Request) :
    (gateway.dispatch server request).response.headers.values .xRequestId =
      ((gateway.delivery? server request).elim [] replyIdentifiers) := by
  unfold delivery?
  by_cases hforwarded : gateway.IsForwarded request
  · rw [dispatch_of_isForwarded hforwarded, if_pos hforwarded]
    cases hsent : Relay.sentRequest? (server.protocolAt gateway.target) gateway.target
        gateway.scheme request with
    | none =>
      rw [Relay.forward_of_sentRequest?_eq_none hsent]
      exact values_ofText _ _ _
    | some sent => exact values_xRequestId_forward hsent
  · rw [dispatch_of_not_isForwarded hforwarded, if_neg hforwarded]
    exact values_xRequestId_ownResponse _ _ _ _

/-- Every response has an identifier. Those of a reply that is relayed are kept in their order,
unless the reply has none or names their field in a `Connection` value; in every other case there is
one, the first of the request where it has one and else the fresh one. -/
theorem values_xRequestId_handle (gateway : Gateway) (server : Server) (fresh : HeaderValue)
    (request : Request) :
    (gateway.handle server fresh request).response.headers.values .xRequestId ≠ [] ∧
    (gateway.handle server fresh request).response.headers.values .xRequestId =
      match gateway.delivery? server (stamped fresh request) with
      | some (.answered reply) =>
        if reply.headers.values .xRequestId = [] ∨
            HeaderName.xRequestId ∈ connectionNames reply.headers then
          [(request.headers.get? .xRequestId).getD fresh]
        else (reply.headers.values .xRequestId).map overWire
      | _ => [(request.headers.get? .xRequestId).getD fresh] := by
  have hvalues : (gateway.handle server fresh request).response.headers.values .xRequestId =
      if (gateway.delivery? server (stamped fresh request)).elim [] replyIdentifiers = [] then
        [(request.headers.get? .xRequestId).getD fresh]
      else (gateway.delivery? server (stamped fresh request)).elim [] replyIdentifiers := by
    rw [handle_eq_dispatch, Http.RequestId.values_answer, values_frame_of_ne _ _ (by decide),
      values_xRequestId_dispatch]
    simp
  constructor
  · rw [hvalues]
    split
    · exact List.cons_ne_nil _ _
    · next hne => exact hne
  · rw [hvalues]
    cases gateway.delivery? server (stamped fresh request) with
    | none => rfl
    | some delivery =>
      cases delivery with
      | failed received cause => rfl
      | answered reply =>
        rw [Option.elim_some, replyIdentifiers_answered]
        by_cases hnamed : HeaderName.xRequestId ∈ connectionNames reply.headers
        · simp [hnamed]
        · simp [hnamed]

end WebGateway.Gateway
