import WebGateway.Http.Headers
import WebGateway.Http.Method
import WebGateway.Http.Uri
import WebGateway.Net.Address

/-!
# Requests

A request as it arrives, with the address of the client where it is known. Its body is *streamed*
when its length is not known before it has arrived.
-/

set_option autoImplicit false
set_option relaxedAutoImplicit false

namespace WebGateway.Http

structure Request where
  method : Method
  uri : Uri
  headers : Headers
  body : ByteArray
  client : Option Net.IpAddress
  isStreamed : Bool := false

end WebGateway.Http
