/-!
# Bodies of responses

A body is *sized* when its length is known before it is sent, *streamed* when it is not, and
*broken* when it ends before the length that was announced for it: the octets of a broken body are
what arrived, and whoever reads it learns that it is not complete.
-/

set_option autoImplicit false
set_option relaxedAutoImplicit false

namespace WebGateway.Http

inductive Body where
  | sized (octets : ByteArray)
  | streamed (octets : ByteArray)
  | broken (octets : ByteArray)

namespace Body

def empty : Body :=
  sized ByteArray.empty

def ofText (text : String) : Body :=
  sized text.toUTF8

/-- The length, where it is known before the body is sent. -/
def size? : Body → Option Nat
  | sized octets => some octets.size
  | _ => none

/-- The octets of a body that arrives in full. -/
def whole? : Body → Option ByteArray
  | sized octets => some octets
  | streamed octets => some octets
  | broken _ => none

end Body

end WebGateway.Http
