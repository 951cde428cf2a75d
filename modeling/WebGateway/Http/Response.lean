import WebGateway.Http.Body
import WebGateway.Http.Headers
import WebGateway.Http.Method

/-!
# Responses

A response has a status, a header section and a body. The plain-text answers of the gateway itself
are built here, among them the refusal of a method, whose `Allow` field lists the accepted ones.
-/

set_option autoImplicit false
set_option relaxedAutoImplicit false

namespace WebGateway.Http

structure Response where
  status : Nat
  headers : Headers
  body : Body

namespace Response

/-- A short plain-text answer. -/
def ofText (status : Nat) (text : String) : Response where
  status := status
  headers := Headers.empty.add .contentType .plainText
  body := .ofText text

/-- An answer without body. -/
def bare (status : Nat) : Response where
  status := status
  headers := .empty
  body := .empty

/-- Refuses a method and names the accepted ones. -/
def methodNotAllowed (allowed : List Method) : Response :=
  let refusal := ofText 405 "Method Not Allowed"
  match HeaderValue.ofText? (Method.allowText allowed) with
  | some value => { refusal with headers := refusal.headers.set .allow value }
  | none => refusal

/-- The answer of a gateway that is up. -/
def healthy : Response :=
  ofText 200 "OK"

end Response

end WebGateway.Http
