import WebGateway.Relay.Exchange
import WebGateway.Relay.HopByHop

/-!
# Framing of requests

How a request is written on a connection to the API server. HTTP/1.1 names the host of the server in
a field, without a port that the scheme implies, and HTTP/2 names its whole authority. A `CONNECT`
has the authority as its target.

A body of HTTP/1.1 ends where the `Content-Length` of the header section says, if that says
anything, and otherwise where the body itself ends. A body of unknown length is not sent at all with
a method that hardly ever has one. In HTTP/2 every body is sent as it is.
-/

set_option autoImplicit false
set_option relaxedAutoImplicit false

namespace WebGateway.Relay

open Backend (Target)
open Http (HeaderValue Headers Method Request)

/-! ### Hosts and targets -/

/-- The host of an authority: what stands behind the last at sign, up to the closing bracket of an
address or else up to the first colon. -/
def hostOf (authority : List Char) : List Char :=
  let place := (authority.reverse.takeWhile (· ≠ '@')).reverse
  if place.head? = some '[' then
    place.takeWhile (· ≠ ']') ++ (place.dropWhile (· ≠ ']')).take 1
  else place.takeWhile (· ≠ ':')

/-- The host by which an API server is addressed. -/
def hostText (protocol : Protocol) (target : Target) : String :=
  let host := String.ofList (hostOf target.authority.toList)
  match protocol with
  | .http2 => target.authority
  | .http1 =>
    if target.port = target.scheme.defaultPort then host
    else host ++ ":" ++ toString target.port.toNat

/-- The target that is written for a method. -/
def targetText (target : Target) (method : Method) (pathQuery : String) : String :=
  if method = .connect then target.authority else pathQuery

/-! ### Bodies -/

/-- A number of 64 bits in decimal. -/
def length? (text : String) : Option Nat :=
  (Net.decimal? text.toList).filter (· < UInt64.size)

/-- The length that a header section gives to the body: its `Content-Length` values can be read, and
all their elements are the same number. -/
def announcedLength? (headers : Headers) : Option Nat := do
  let numbers ← (headers.values .contentLength).mapM fun value ↦ do
    (listElements (← value.text?)).mapM length?
  match numbers.flatten.eraseDups with
  | [length] => some length
  | _ => none

/-- Requests with this method hardly ever have a body. -/
def isUsuallyBodyless (method : Method) : Bool :=
  method = .get || method = .head || method = .connect

/-- What is sent of the body of a request, beside the header section that is sent. -/
def sentBody (protocol : Protocol) (headers : Headers) (request : Request) : ByteArray :=
  match protocol, announcedLength? headers with
  | .http2, _ => request.body
  | .http1, some length => request.body.extract 0 length
  | .http1, none =>
    if request.isStreamed && isUsuallyBodyless request.method then .empty else request.body

end WebGateway.Relay
