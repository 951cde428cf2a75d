/-!
# Elliptic curves

The points of a curve y² = x³ − 3x + b over a prime field, with the point at infinity. Multiples of
the base point are formed by doubling and adding in projective coordinates, so that only one
inversion is needed at the end.
-/

set_option autoImplicit false
set_option relaxedAutoImplicit false

namespace WebGateway.Tls

/-- The power of a number modulo another, by squaring. -/
def powMod (base exponent modulus : Nat) : Nat :=
  if exponent = 0 then 1 % modulus
  else
    let half := powMod (base * base % modulus) (exponent / 2) modulus
    if exponent % 2 = 1 then half * base % modulus else half
termination_by exponent

/-- The inverse modulo a prime. -/
def inverseMod (value prime : Nat) : Nat :=
  powMod value (prime - 2) prime

/-- A curve: its field, its coefficient, its base point and the order of that point. -/
structure Curve where
  prime : Nat
  coefficient : Nat
  baseX : Nat
  baseY : Nat
  order : Nat
  /-- the number of octets of a coordinate -/
  size : Nat
  /-- the object identifier of the curve -/
  identifier : List UInt8
deriving DecidableEq, Repr

namespace Curve

/-- A point in projective coordinates, where `z = 0` is the point at infinity; `x / z²` and
`y / z³` are the coordinates of every other point. -/
structure Point where
  x : Nat
  y : Nat
  z : Nat
deriving DecidableEq, Repr

/-- The difference modulo the prime of two numbers below it. -/
def minus (curve : Curve) (first second : Nat) : Nat :=
  (first + curve.prime - second % curve.prime) % curve.prime

def infinity : Point :=
  ⟨1, 1, 0⟩

def double (curve : Curve) (point : Point) : Point :=
  let p := curve.prime
  if point.z = 0 ∨ point.y = 0 then infinity
  else
    let zz := point.z * point.z % p
    let yy := point.y * point.y % p
    let s := 4 * point.x * yy % p
    let m := 3 * curve.minus point.x zz * (point.x + zz) % p
    let x := curve.minus (m * m % p) (2 * s)
    ⟨x, curve.minus (m * curve.minus s x % p) (8 * yy * yy), 2 * point.y * point.z % p⟩

def add (curve : Curve) (first second : Point) : Point :=
  let p := curve.prime
  if first.z = 0 then second
  else if second.z = 0 then first
  else
    let zz₁ := first.z * first.z % p
    let zz₂ := second.z * second.z % p
    let u₁ := first.x * zz₂ % p
    let u₂ := second.x * zz₁ % p
    let s₁ := first.y * zz₂ * second.z % p
    let s₂ := second.y * zz₁ * first.z % p
    if u₁ = u₂ then if s₁ = s₂ then curve.double first else infinity
    else
      let h := curve.minus u₂ u₁
      let r := curve.minus s₂ s₁
      let hh := h * h % p
      let hhh := h * hh % p
      let v := u₁ * hh % p
      let x := curve.minus (r * r % p) (hhh + 2 * v)
      ⟨x, curve.minus (r * curve.minus v x % p) (s₁ * hhh), h * first.z * second.z % p⟩

/-- The multiple of a point. -/
def multiply (curve : Curve) (factor : Nat) (point : Point) : Point :=
  if factor = 0 then infinity
  else
    let half := curve.multiply (factor / 2) (curve.double point)
    if factor % 2 = 1 then curve.add half point else half
termination_by factor

/-- The coordinates of a point other than infinity. -/
def affine (curve : Curve) (point : Point) : Nat × Nat :=
  let inverse := inverseMod point.z curve.prime
  let square := inverse * inverse % curve.prime
  (point.x * square % curve.prime, point.y * square * inverse % curve.prime)

/-- The coordinates of a multiple of the base point. -/
def publicPoint (curve : Curve) (secret : Nat) : Nat × Nat :=
  curve.affine (curve.multiply secret ⟨curve.baseX, curve.baseY, 1⟩)

def p256 : Curve where
  prime := 0xffffffff00000001000000000000000000000000ffffffffffffffffffffffff
  coefficient := 0x5ac635d8aa3a93e7b3ebbd55769886bc651d06b0cc53b0f63bce3c3e27d2604b
  baseX := 0x6b17d1f2e12c4247f8bce6e563a440f277037d812deb33a0f4a13945d898c296
  baseY := 0x4fe342e2fe1a7f9b8ee7eb4a7c0f9e162bce33576b315ececbb6406837bf51f5
  order := 0xffffffff00000000ffffffffffffffffbce6faada7179e84f3b9cac2fc632551
  size := 32
  identifier := [0x2A, 0x86, 0x48, 0xCE, 0x3D, 0x03, 0x01, 0x07]

def p384 : Curve where
  prime := 0xfffffffffffffffffffffffffffffffffffffffffffffffffffffffffffffffeffffffff0000000000000000ffffffff
  coefficient := 0xb3312fa7e23ee7e4988e056be3f82d19181d9c6efe8141120314088f5013875ac656398d8a2ed19d2a85c8edd3ec2aef
  baseX := 0xaa87ca22be8b05378eb1c71ef320ad746e1d3b628ba79b9859f741e082542a385502f25dbf55296c3a545e3872760ab7
  baseY := 0x3617de4a96262c6f5d9e98bf9292dc29f8f41dbd289a147ce9da3113b5f0b8c00a60b1ce1d7e819d7a431d7c90ea0e5f
  order := 0xffffffffffffffffffffffffffffffffffffffffffffffffc7634d81f4372ddf581a0db248b0a77aecec196accc52973
  size := 48
  identifier := [0x2B, 0x81, 0x04, 0x00, 0x22]

def p521 : Curve where
  prime := Nat.pow 2 521 - 1
  coefficient := 0x051953eb9618e1c9a1f929a21a0b68540eea2da725b99b315f3b8b489918ef109e156193951ec7e937b1652c0bd3bb1bf073573df883d2c34f1ef451fd46b503f00
  baseX := 0xc6858e06b70404e9cd9e3ecb662395b4429c648139053fb521f828af606b4d3dbaa14b5e77efe75928fe1dc127a2ffa8de3348b3c1856a429bf97e7e31c2e5bd66
  baseY := 0x11839296a789a3bc0045c8a5fb42c7d1bd998f54449579b446817afbd17273e662c97ee72995ef42640c550b9013fad0761353c7086a272c24088be94769fd16650
  order := 0x1fffffffffffffffffffffffffffffffffffffffffffffffffffffffffffffffffa51868783bf2f966b7fcc0148f709a5d03bb5c9b8899c47aebb6fb71e91386409
  size := 66
  identifier := [0x2B, 0x81, 0x04, 0x00, 0x23]

/-- The curves on which keys may lie. -/
def all : List Curve :=
  [p256, p384, p521]

end Curve

end WebGateway.Tls
