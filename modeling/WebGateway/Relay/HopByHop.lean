import WebGateway.Http.Headers
import WebGateway.Text.Blank

/-!
# Connection-specific fields

Fields that concern one connection are not relayed: nine of them by name, and those that the
readable `Connection` values list. Whatever is no field name in such a list names nothing.
-/

set_option autoImplicit false
set_option relaxedAutoImplicit false

namespace WebGateway.Relay

open Http (HeaderName HeaderValue Headers)

/-- The fields that never outlive a connection. -/
def hopByHop : List HeaderName :=
  [.connection, .keepAlive, .proxyConnection, .proxyAuthenticate, .proxyAuthorization, .te,
    .trailer, .transferEncoding, .upgrade]

/-- The elements of a comma-separated list, without the blanks around them. -/
def listElements (text : String) : List String :=
  (text.toList.splitOn ',').map fun element ↦
    String.ofList (Text.trimEnds Text.isBlank element)

/-- The fields that a header section names in its `Connection` values. -/
def connectionNames (headers : Headers) : List HeaderName :=
  (headers.values .connection).flatMap fun value ↦
    match value.text? with
    | some text => (listElements text).filterMap HeaderName.parse?
    | none => []

/-- The header section without its connection-specific fields. -/
def endToEnd (headers : Headers) : Headers :=
  let named := connectionNames headers
  headers.keep fun name ↦ !hopByHop.contains name && !named.contains name

end WebGateway.Relay
