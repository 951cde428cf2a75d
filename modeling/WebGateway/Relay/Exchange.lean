import WebGateway.Backend.Target
import WebGateway.Http.Request
import WebGateway.Http.Response
import WebGateway.Relay.Failure
import WebGateway.Text.Trim

/-!
# Exchanges with the API server

What is sent to the API server and what can come back. An API server answers each request that it
receives, and what is delivered of its answer is the head of a reply with its body, or a failure,
which says whether the request was received at all. A connection speaks HTTP/1.1, unless it is
encrypted and the server agrees to HTTP/2. Spaces and tabs at both ends of a field value are no part
of it and do not survive a connection.

Scope. The framing fields that a connection adds by itself, the time that an exchange takes, and
what goes through the tunnel of a `CONNECT` are left out. A connection is made for each request.
-/

set_option autoImplicit false
set_option relaxedAutoImplicit false

namespace WebGateway.Relay

open Http (Body HeaderValue Headers Method)

/-- What a connection to the API server speaks. -/
inductive Protocol where
  | http1
  | http2
deriving DecidableEq, Repr

/-- A request as the API server receives it. Its host is a `Host` value in HTTP/1.1; in HTTP/2 it is
the `:authority`, which is no field. -/
structure SentRequest where
  protocol : Protocol
  method : Method
  target : String
  host : HeaderValue
  headers : Headers
  body : ByteArray

/-- All `Host` values that the API server receives. -/
def SentRequest.hosts (sent : SentRequest) : List HeaderValue :=
  match sent.protocol with
  | .http1 => sent.host :: sent.headers.values .host
  | .http2 => sent.headers.values .host

/-- The head of a reply with its body. -/
structure Reply where
  status : Nat
  headers : Headers
  body : Body

/-- What comes of a request. -/
inductive Delivery where
  | failed (received : Bool) (cause : ErrorChain)
  | answered (reply : Reply)

/-- An API server: whether it agrees to HTTP/2, and what it answers. -/
structure Server where
  agreesToHttp2 : Bool
  answer : SentRequest → Delivery

namespace Server

/-- An API server to which no connection is made. -/
def unreachable : Server where
  agreesToHttp2 := false
  answer := fun _ ↦ .failed false [.plain "client error (Connect)", .io .other]

/-- What is spoken with an API server: HTTP/2 is offered on encrypted connections alone. -/
def protocolAt (server : Server) (target : Backend.Target) : Protocol :=
  if target.isTls && server.agreesToHttp2 then .http2 else .http1

end Server

/-- The octet is a space or a tab. -/
def isWireBlank (octet : UInt8) : Bool :=
  octet == 32 || octet == 9

/-- A field value as it arrives over a connection. -/
def overWire (value : HeaderValue) : HeaderValue :=
  ⟨Text.trimEnds isWireBlank value.octets,
    List.all_eq_true.mpr fun octet hoctet ↦
      List.all_eq_true.mp value.isValue octet (Text.mem_of_mem_trimEnds hoctet)⟩

/-- The reply to a method with a status has no body. -/
def isBodyless (method : Method) (status : Nat) : Bool :=
  method = .head || status = 204 || status = 304

/-- The body of a reply as the gateway receives it. -/
def Reply.bodyFor (reply : Reply) (method : Method) : Body :=
  if isBodyless method reply.status then .empty else reply.body

end WebGateway.Relay
