import WebGateway.Http.Headers
import WebGateway.Net.Address
import WebGateway.Relay.HopByHop

/-!
# Forwarding fields

A request that is passed on records who sent it: the address of the client is appended to the chain
in `X-Forwarded-For`, and the scheme and the host that the client addressed are added where they are
not yet recorded.
-/

set_option autoImplicit false
set_option relaxedAutoImplicit false

namespace WebGateway.Relay

open Http (HeaderName HeaderValue Headers)

/-- The scheme over which a request arrived. -/
inductive InboundScheme where
  | http
  | https
deriving DecidableEq, Repr

def InboundScheme.value : InboundScheme → HeaderValue
  | http => .ofAscii "http"
  | https => .ofAscii "https"

/-- The text that the chain had so far, unless it is blank or cannot be read. -/
def priorChain? (headers : Headers) : Option String := do
  let value ← headers.get? .xForwardedFor
  let prior ← value.text?
  if Text.trimEnds Text.isBlank prior.toList = [] then none else some prior

/-- Puts the address of the client behind the chain. -/
def recordClient (client : Net.IpAddress) (headers : Headers) : Headers :=
  let chain :=
    match priorChain? headers with
    | some prior => prior ++ ", " ++ client.toText
    | none => client.toText
  match HeaderValue.ofText? chain with
  | some value => headers.set .xForwardedFor value
  | none => headers

/-- Records the client, the scheme and the host of a request that is passed on. -/
def recordForwarded (client : Option Net.IpAddress) (scheme : InboundScheme)
    (host : Option HeaderValue) (headers : Headers) : Headers :=
  let chained :=
    match client with
    | some address => recordClient address headers
    | none => headers
  let schemed := chained.setIfAbsent .xForwardedProto scheme.value
  match host with
  | some value => schemed.setIfAbsent .xForwardedHost value
  | none => schemed

/-- The hops that a header section records: the elements of all its `X-Forwarded-For` values in
order, where an unreadable value records none. -/
def forwardedChain (headers : Headers) : List String :=
  (headers.values .xForwardedFor).flatMap fun value ↦
    match value.text? with
    | some text => (listElements text).filter fun element ↦ element ≠ ""
    | none => []

end WebGateway.Relay
