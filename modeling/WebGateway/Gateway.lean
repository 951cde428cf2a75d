import WebGateway.Assets.Bundle
import WebGateway.Http.RequestId
import WebGateway.Relay.Forwarding
import WebGateway.Routing.Table

/-!
# The gateway

A request is given an identifier, sent to exactly one handler by its path and method, and answered;
the answer gets the length of its body where that is known, loses the body if the request was a
`HEAD`, and carries an identifier. Targets that are no paths lead nowhere.
-/

set_option autoImplicit false
set_option relaxedAutoImplicit false

namespace WebGateway

open Http (HeaderValue Method Request Response)
open Relay (Exchange InboundScheme Server)

structure Gateway where
  routes : Routing.Table
  target : Backend.Target
  bundle : Assets.Bundle
  scheme : InboundScheme

namespace Gateway

/-- Announces the length of the body, where it is known and not yet announced. -/
def announceLength (response : Response) : Response :=
  match response.body.size? with
  | some size =>
    { response with headers := response.headers.setIfAbsent .contentLength (.ofNat size) }
  | none => response

/-- The successful answer to a `CONNECT` opens a tunnel and has neither length nor body. -/
def opensTunnel (method : Method) (status : Nat) : Bool :=
  method = .connect && 200 ≤ status && status < 300

/-- The response as it is framed for the method of its request. -/
def frame (method : Method) (response : Response) : Response :=
  if opensTunnel method response.status then { response with body := .empty }
  else
    let announced := announceLength response
    if method = .head then { announced with body := .empty } else announced

/-- The answer of the handler that the table chooses. -/
def route (gateway : Gateway) (server : Server) (request : Request) : Exchange :=
  match gateway.routes.resolve request.method request.uri.path with
  | .handled .health => ⟨.healthy, none⟩
  | .handled .proxy => Relay.forward server gateway.target gateway.scheme request
  | .handled .static => ⟨gateway.bundle.respond request.method request.uri.path, none⟩
  | .methodNotAllowed _ allowed => ⟨.methodNotAllowed allowed, none⟩

/-- Answers a request; `fresh` is the identifier that it gets if it has none. -/
def handle (gateway : Gateway) (server : Server) (fresh : HeaderValue) (request : Request) :
    Exchange :=
  let stamped := { request with headers := Http.RequestId.stamp fresh request.headers }
  let exchange :=
    if Routing.startsWithSlash request.uri.path then gateway.route server stamped
    else ⟨.bare 404, none⟩
  { exchange with
    response := Http.RequestId.answer (stamped.headers.get? .xRequestId)
      (frame request.method exchange.response) }

end Gateway

end WebGateway
