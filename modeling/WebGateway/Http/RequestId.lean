import WebGateway.Http.Response

/-!
# Request identifiers

Every request carries an identifier: its own `X-Request-Id`, or a fresh one. Every response carries
one as well: its own, or else the first of the request.
-/

set_option autoImplicit false
set_option relaxedAutoImplicit false

namespace WebGateway.Http.RequestId

/-- The identifier of a request, if it has one that can be read. -/
def read? (headers : Headers) : Option String :=
  (headers.get? .xRequestId).bind HeaderValue.text?

/-- Gives a request the fresh identifier if it has none. -/
def stamp (fresh : HeaderValue) (headers : Headers) : Headers :=
  headers.setIfAbsent .xRequestId fresh

/-- Gives a response the identifier of its request, unless it has one of its own. -/
def answer (id : Option HeaderValue) (response : Response) : Response :=
  match id with
  | some value => { response with headers := response.headers.setIfAbsent .xRequestId value }
  | none => response

end WebGateway.Http.RequestId
