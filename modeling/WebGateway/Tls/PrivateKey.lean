import WebGateway.Tls.Curve
import WebGateway.Tls.Der
import WebGateway.Tls.Edwards
import WebGateway.Tls.Pem

/-!
# Private keys

A private key is an RSA key, a key on one of three elliptic curves, or an Ed25519 key, and is
written plainly or inside a container that names its algorithm. What it is needed for here is its
public key, in the form in which certificates hold it. Keys whose parts do not fit together are no
keys.
-/

set_option autoImplicit false
set_option relaxedAutoImplicit false

namespace WebGateway.Tls.PrivateKey

open Der (Octets)

/-- The object identifier of RSA keys. -/
def rsaIdentifier : Octets :=
  [0x2A, 0x86, 0x48, 0x86, 0xF7, 0x0D, 0x01, 0x01, 0x01]

/-- The object identifier of keys on elliptic curves. -/
def ecIdentifier : Octets :=
  [0x2A, 0x86, 0x48, 0xCE, 0x3D, 0x02, 0x01]

/-- The object identifier of Ed25519 keys. -/
def edIdentifier : Octets :=
  [0x2B, 0x65, 0x70]

/-- A public key as certificates hold it. -/
def publicInfo (algorithm key : Octets) : Octets :=
  Der.write Der.sequenceTag (Der.write Der.sequenceTag algorithm ++ Der.writeBits key)

/-- What a container holds: the algorithm with its parameters, the key, and the public key if it is
written down. -/
structure Container where
  identifier : Octets
  parameters : Octets
  key : Octets
  published : Option Octets
deriving DecidableEq, Repr

/-- Reads a container. -/
def container? (octets : Octets) : Option Container := do
  let content ← Der.whole? Der.sequenceTag octets
  let (version, rest) ← Der.expectNatural? content
  let (algorithm, rest) ← Der.expect? Der.sequenceTag rest
  let (identifier, parameters) ← Der.expect? Der.objectTag algorithm
  let (key, rest) ← Der.expect? Der.octetStringTag rest
  let (_, rest) := Der.optional (Der.fieldTag 0) rest
  if version = 0 ∧ rest = [] then return ⟨identifier, parameters, key, none⟩
  else if version = 1 then
    if rest = [] then return ⟨identifier, parameters, key, none⟩
    else
      let published ← Der.whole? 0x81 rest
      return ⟨identifier, parameters, key, ← Der.bits? published⟩
  else none

/-- The numbers at the front of a content, so many of them, and what follows them. -/
def naturals? : Nat → Octets → Option (List Nat × Octets)
  | 0, rest => some ([], rest)
  | count + 1, rest => do
    let (value, rest) ← Der.expectNatural? rest
    let (values, rest) ← naturals? count rest
    return (value :: values, rest)

/-- The parts of an RSA key fit together, and its modulus has between 2048 and 8192 bits. -/
def rsaFits (n e d p q dp dq inverse : Nat) : Bool :=
  2047 ≤ n.log2 && n.log2 < 8192 && n == p * q && e % 2 == 1 && 3 ≤ e && e.log2 < 33 && d < n &&
    1 < p && 1 < q && d * e % (p - 1) == 1 && d * e % (q - 1) == 1 && dp == d % (p - 1) &&
    dq == d % (q - 1) && inverse * q % p == 1

/-- The public key of a plain RSA key. -/
def rsaPublic? (octets : Octets) : Option Octets := do
  let content ← Der.whole? Der.sequenceTag octets
  match ← naturals? 9 content with
  | ([0, n, e, d, p, q, dp, dq, inverse], []) =>
    if rsaFits n e d p q dp dq inverse then
      some (publicInfo (Der.write Der.objectTag rsaIdentifier ++ Der.write Der.nullTag [])
        (Der.write Der.sequenceTag (Der.writeNatural n ++ Der.writeNatural e)))
    else none
  | _ => none

/-- A point as it is written: both coordinates behind the octet 4. -/
def writePoint (curve : Curve) (point : Nat × Nat) : Octets :=
  4 :: Der.padded curve.size point.1 ++ Der.padded curve.size point.2

/-- The curve of an object identifier. -/
def curveOf? (identifier : Octets) : Option Curve :=
  Curve.all.find? fun curve ↦ curve.identifier = identifier

/-- The public key of a plain key on an elliptic curve, which may name the curve itself. -/
def ecPublic? (outer : Option Curve) (octets : Octets) : Option Octets := do
  let content ← Der.whole? Der.sequenceTag octets
  let (version, rest) ← Der.expectNatural? content
  let (secret, rest) ← Der.expect? Der.octetStringTag rest
  let (parameters, rest) := Der.optional (Der.fieldTag 0) rest
  let (published, rest) := Der.optional (Der.fieldTag 1) rest
  let named := (parameters.bind (Der.whole? Der.objectTag)).bind curveOf?
  let curve ← if parameters.isSome then named else outer
  let factor := Der.number secret
  if version = 1 ∧ rest = [] ∧ 0 < factor ∧ factor < curve.order ∧
      (outer = none ∨ outer = some curve) then
    let point := writePoint curve (curve.publicPoint factor)
    let fits := match published with
      | none => true
      | some field => (Der.whole? Der.bitStringTag field).bind Der.bits? = some point
    if fits then
      some (publicInfo (Der.write Der.objectTag ecIdentifier ++
        Der.write Der.objectTag curve.identifier) point)
    else none
  else none

/-- The public key of an Ed25519 key in a container. -/
def edPublic? (container : Container) : Option Octets := do
  let secret ← Der.whole? Der.octetStringTag container.key
  if container.parameters = [] ∧ secret.length = 32 then
    let key := Edwards.publicKey secret
    if container.published = none ∨ container.published = some key then
      some (publicInfo (Der.write Der.objectTag edIdentifier) key)
    else none
  else none

/-- The public key of an RSA key or a key on an elliptic curve in a container. -/
def containedPublic? (container : Container) : Option Octets :=
  if container.identifier = rsaIdentifier then
    if container.parameters = Der.write Der.nullTag [] then rsaPublic? container.key else none
  else if container.identifier = ecIdentifier then do
    let named ← Der.whole? Der.objectTag container.parameters
    let curve ← curveOf? named
    ecPublic? (some curve) container.key
  else none

/-- The public key of a section that holds a private key. -/
def publicKey? (key : PemSection) : Option Octets :=
  match key.kind with
  | .rsaKey => rsaPublic? key.content
  | .ecKey =>
    (ecPublic? none key.content).or do
      let container ← container? key.content
      if container.identifier = ecIdentifier then containedPublic? container else none
  | .pkcs8Key => do
    let container ← container? key.content
    if container.identifier = edIdentifier then edPublic? container
    else containedPublic? container
  | _ => none

end WebGateway.Tls.PrivateKey
