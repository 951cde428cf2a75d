import WebGateway.Net.Address
import WebGateway.SystemError
import WebGateway.Text.Trim

/-!
# Listening sockets

A host is an address, or a name that has addresses. A socket is to listen at one of them: the
operating system is asked for each in turn until it admits one, and the last answer counts if it
admits none. What it answers is part of the network: it may refuse an address for any reason, and
where it is asked for port 0 it chooses the port.

A machine that only keeps its sockets apart (`admitUnlessTaken`) refuses an address just when a
socket of the same port is in the way. For port 0, it tries one more of the ports that may be given
out than there are sockets, so one of them is free.

Scope. The zone of an IPv6 address and the time that a lookup takes are left out. A socket listens
from the moment at which it is admitted.
-/

set_option autoImplicit false
set_option relaxedAutoImplicit false

namespace WebGateway.Net

/-! ### A machine that keeps its sockets apart -/

/-- Two sockets that cannot both listen. -/
def collide (first second : SocketAddress) : Bool :=
  first.port = second.port &&
    (first.ip.unmapped.covers second.ip.unmapped || second.ip.unmapped.covers first.ip.unmapped)

/-- The first of the ports that are given out to sockets without a port of their own. -/
def firstSparePort : Nat :=
  32768

/-- The ports that are tried for a socket beside others. -/
def candidates (listening : List SocketAddress) (port : UInt16) : List UInt16 :=
  if port = 0 then
    (List.range (listening.length + 1)).map fun offset ↦ UInt16.ofNat (firstSparePort + offset)
  else [port]

/-- Admits a socket unless one that listens is in its way. -/
def admitUnlessTaken (listening : List SocketAddress) (wanted : SocketAddress) :
    Except SystemError SocketAddress :=
  let sockets := (candidates listening wanted.port).map fun port ↦ ⟨wanted.ip, port⟩
  match sockets.find? fun socket ↦ !listening.any (collide socket) with
  | some socket => .ok socket
  | none => .error .addressInUse

/-! ### Networks -/

/-- Why no socket listens at a host. -/
inductive BindError where
  | unknownHost (reason : String)
  | refused (cause : SystemError)
deriving DecidableEq, Repr

def BindError.message : BindError → String
  | unknownHost reason => "failed to lookup address information: " ++ reason
  | refused cause => cause.message

/-- The names of hosts with their addresses, the sockets that listen, and the answers to what is
asked: why a name has no address, and whether a socket may listen beside the others. -/
structure Network where
  names : List (String × IpAddress)
  listening : List SocketAddress
  failure : String → BindError := fun _ ↦ .unknownHost "Temporary failure in name resolution"
  answer : List SocketAddress → SocketAddress → Except SystemError SocketAddress := admitUnlessTaken

/-- A host without the square brackets around it. -/
def bareHost (host : String) : String :=
  String.ofList (Text.trimEnds (fun c ↦ c == '[' || c == ']') host.toList)

namespace Network

/-- The addresses of a host, which may be written as an address. -/
def addresses (network : Network) (host : String) : List IpAddress :=
  match IpAddress.parse? host with
  | some ip => [ip]
  | none => (network.names.filter fun entry ↦ entry.1 = host).map Prod.snd

/-- The answer to a socket that is to listen at an address. -/
def ask (network : Network) (port : UInt16) (ip : IpAddress) : Except SystemError SocketAddress :=
  network.answer network.listening ⟨ip, port⟩

/-- The socket that would listen at a host and a port. -/
def bind (network : Network) (host : String) (port : UInt16) : Except BindError SocketAddress :=
  match network.addresses (bareHost host) with
  | [] => .error (network.failure (bareHost host))
  | ip :: others =>
    (others.foldl (fun answer ip ↦ answer <|> network.ask port ip) (network.ask port ip)).mapError
      .refused

/-- The network with one more listening socket. -/
def listen (network : Network) (socket : SocketAddress) : Network :=
  { network with listening := socket :: network.listening }

end Network

end WebGateway.Net
