import WebGateway.Backend.RequestTarget
import WebGateway.Relay.Forwarded
import WebGateway.Relay.Framing

/-!
# Forwarding

A request is passed on with its method and body, at the target that the API server has for it, with
the host of the API server in the place of its own, without connection-specific fields, and with the
client on record. The reply is relayed without its connection-specific fields; a failed exchange is
answered by the gateway.
-/

set_option autoImplicit false
set_option relaxedAutoImplicit false

namespace WebGateway.Relay

open Backend (Target)
open Http (HeaderValue Headers Method Request Response)

/-- The host that the client addressed: its first `Host` value, or else the authority of its
target. -/
def addressedHost? (request : Request) : Option HeaderValue :=
  (request.headers.get? .host).or (request.uri.authority.bind HeaderValue.ofText?)

/-- The header section that is sent on: stripped, without the host, and with the client on
record. -/
def sentHeaders (scheme : InboundScheme) (request : Request) : Headers :=
  recordForwarded request.client scheme (addressedHost? request)
    ((endToEnd request.headers).erase .host)

/-- The request that is sent on, if its target can be written. -/
def sentRequest? (protocol : Protocol) (target : Target) (scheme : InboundScheme)
    (request : Request) : Option SentRequest :=
  match target.uriFor request.uri, HeaderValue.ofText? (hostText protocol target) with
  | .ok uri, some host =>
    let headers := sentHeaders scheme request
    some {
      protocol := protocol
      method := request.method
      target := targetText target request.method uri.target
      host := host
      headers := headers.mapValues overWire
      body := sentBody protocol headers request }
  | _, _ => none

/-- The answer to a request that could not be sent on. -/
def unsendable : Response :=
  .ofText 502 "Upstream request failed"

/-- The reply as it is relayed. -/
def relay (method : Method) (reply : Reply) : Response where
  status := reply.status
  headers := endToEnd (reply.headers.mapValues overWire)
  body := reply.bodyFor method

/-- What the client gets, and what the API server received. -/
structure Exchange where
  response : Response
  received : Option SentRequest

/-- Passes a request on and relays the reply. -/
def forward (server : Server) (target : Target) (scheme : InboundScheme) (request : Request) :
    Exchange :=
  match sentRequest? (server.protocolAt target) target scheme request with
  | none => ⟨unsendable, none⟩
  | some sent =>
    match server.answer sent with
    | .failed received cause => ⟨cause.response, if received then some sent else none⟩
    | .answered reply => ⟨relay request.method reply, some sent⟩

end WebGateway.Relay
