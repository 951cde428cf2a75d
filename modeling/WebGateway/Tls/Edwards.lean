import WebGateway.Tls.Curve
import WebGateway.Tls.Sha512

/-!
# Ed25519 keys

The public key of a secret is a multiple of the base point of the curve −x² + y² = 1 + dx²y², with a
factor that is taken from the digest of the secret.
-/

set_option autoImplicit false
set_option relaxedAutoImplicit false

namespace WebGateway.Tls.Edwards

def prime : Nat :=
  Nat.pow 2 255 - 19

/-- The coefficient of the curve, −121665 / 121666. -/
def coefficient : Nat :=
  (prime - 121665) * inverseMod 121666 prime % prime

/-- A point in extended coordinates, with `t = x * y / z`. -/
structure Point where
  x : Nat
  y : Nat
  z : Nat
  t : Nat
deriving DecidableEq, Repr

def minus (first second : Nat) : Nat :=
  (first + prime - second % prime) % prime

def neutral : Point :=
  ⟨0, 1, 1, 0⟩

def add (first second : Point) : Point :=
  let a := minus first.y first.x * minus second.y second.x % prime
  let b := (first.y + first.x) * (second.y + second.x) % prime
  let c := 2 * first.t * second.t * coefficient % prime
  let d := 2 * first.z * second.z % prime
  let e := minus b a
  let f := minus d c
  let g := (d + c) % prime
  let h := (b + a) % prime
  ⟨e * f % prime, g * h % prime, f * g % prime, e * h % prime⟩

def multiply (factor : Nat) (point : Point) : Point :=
  if factor = 0 then neutral
  else
    let half := multiply (factor / 2) (add point point)
    if factor % 2 = 1 then add half point else half
termination_by factor

def base : Point :=
  let x := 0x216936d3cd6e53fec0a4e231fdd6dc5c692cc7609525a7b2c9562d608f25d51a
  let y := 0x6666666666666666666666666666666666666666666666666666666666666658
  ⟨x, y, 1, x * y % prime⟩

/-- The number that octets write, the weightiest last. -/
def littleNumber (octets : List UInt8) : Nat :=
  octets.foldr (fun octet value ↦ octet.toNat + 256 * value) 0

/-- The first octets of a number, the weightiest last. -/
def littleOctets : Nat → Nat → List UInt8
  | 0, _ => []
  | count + 1, value => UInt8.ofNat value :: littleOctets count (value / 256)

/-- The factor of a secret: the first half of its digest with the lowest three bits and the highest
one cleared and the second highest set. -/
def factorOf (secret : List UInt8) : Nat :=
  let number := littleNumber ((Sha512.digest secret).take 32)
  Nat.pow 2 254 + number % Nat.pow 2 254 / 8 * 8

/-- A point as it is written: the second coordinate, and the last bit of the first. -/
def encode (point : Point) : List UInt8 :=
  let inverse := inverseMod point.z prime
  let x := point.x * inverse % prime
  let y := point.y * inverse % prime
  littleOctets 32 (y + x % 2 * Nat.pow 2 255)

/-- The public key of a secret. -/
def publicKey (secret : List UInt8) : List UInt8 :=
  encode (multiply (factorOf secret) base)

end WebGateway.Tls.Edwards
